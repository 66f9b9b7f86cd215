/-!
# Power — powers of numbers are the core library's

Numbers are cut and put together at powers of two, ten and sixteen throughout.  Libraries bring
instances of power of their own, which agree with the core library's but are other terms.  Inside the
namespace the core library's come first, and a power of a numeral says that its exponent is a natural
number, so a definition is the same term whatever is imported beside it.
-/

namespace KeysetStore

attribute [scoped instance (20000)] instPowNat instNatPowNat Int.instNatPow

end KeysetStore
