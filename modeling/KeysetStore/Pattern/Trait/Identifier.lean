import KeysetStore.Pattern.Trait.Letter

/-!
# Pattern/Trait/Identifier — characters of identifiers

Which characters begin an identifier, which continue it, and which are kept for the syntax of
patterns.  The tables are those of Unicode 16.0.
-/

namespace KeysetStore.Pattern.Trait

/-- Signs kept for the syntax of patterns. -/
def patternSyntax : Ranges :=
  .ofText <| String.join [
      "21-2F 3A-40 5B-5E 60 7B-7E A1-A7 A9 AB-AC AE B0-B1 B6 BB BF D7 F7 2010-2027 2030-203E ",
      "2041-2053 2055-205E 2190-245F 2500-2775 2794-2BFF 2E00-2E7F 3001-3003 3008-3020 3030 ",
      "FD3E-FD3F FE45-FE46"]

/-- Blanks kept for the syntax of patterns. -/
def patternWhiteSpace : Ranges := .ofText "9-D 20 85 200E-200F 2028-2029"

/-- All characters kept for the syntax of patterns. -/
def patternReserved : Ranges := patternSyntax.union patternWhiteSpace

/-- Further characters that begin an identifier. -/
def otherIdStart : Ranges := .ofText "1885-1886 2118 212E 309B-309C"

/-- **Characters that begin an identifier.** -/
def idStart : Ranges :=
  (Ranges.unionAll [Category.letters, Category.ofLabels ["Nl"], otherIdStart]).diff patternReserved

/-- Further characters that continue an identifier. -/
def otherIdContinue : Ranges := .ofText "B7 387 1369-1371 19DA 200C-200D 30FB FF65"

/-- **Characters that continue an identifier.** -/
def idContinue : Ranges :=
  (Ranges.unionAll [idStart, Category.ofLabels ["Mn", "Mc", "Nd", "Pc"], otherIdContinue]).diff
    patternReserved

/-- Characters that begin an identifier, but not once they are taken apart. -/
def unstableStart : Ranges :=
  .ofText "37A E33 EB3 309B-309C FC5E-FC63 FDFA-FDFB FE70~FE7E FF9E-FF9F"

/-- Characters that continue an identifier, but not once they are taken apart. -/
def unstableContinue : Ranges := .ofText "37A 309B-309C FC5E-FC63 FDFA-FDFB FE70~FE7E"

/-- Characters that begin an identifier, also once they are taken apart. -/
def xidStart : Ranges := idStart.diff unstableStart

/-- Characters that continue an identifier, also once they are taken apart. -/
def xidContinue : Ranges := idContinue.diff unstableContinue

/-- Mathematical signs that may begin an identifier. -/
def idCompatMathStart : Ranges :=
  .ofText "2202 2207 221E 1D6C1 1D6DB 1D6FB 1D715 1D735 1D74F 1D76F 1D789 1D7A9 1D7C3"

/-- Mathematical signs that may continue an identifier. -/
def idCompatMathContinue : Ranges :=
  .ofText <| String.join [
      "B2-B3 B9 2070 2074-207E 2080-208E 2202 2207 221E 1D6C1 1D6DB 1D6FB 1D715 1D735 1D74F 1D76F ",
      "1D789 1D7A9 1D7C3"]

end KeysetStore.Pattern.Trait
