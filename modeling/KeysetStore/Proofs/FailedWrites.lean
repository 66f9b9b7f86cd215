import KeysetStore.Codec.Models
import KeysetStore.Proofs.CreatedModel
import KeysetStore.Proofs.FailedCalls

/-!
# Proofs/FailedWrites — when a write that fails has changed nothing

A repository checks its arguments, asks the store to write, and then reads the model back from the body
that was written.  A failure before the store has answered leaves every document where it was, and so
does an answer that nothing was found.  What remains is a reply that cannot be read back, after the
document has been written (`Repository.create_failed`, `Repository.update_failed`).

Reading a record back fails exactly where the identifier or the owner has been written into a field
that cannot hold it (`RecordKind.isOk_loadAs`).  The records of the library say of each field what it
can hold (`RecordKind.shape`).  A value of any kind is read back through a serialization, of which no
more is asked than that plain documents can be read (`ValueSerialization`); where value, owner and
setup are plain, the reply is (`Config.Fits.isPlain_reply`).

Where setup, owner and model fit, no write that fails changes a document (`Repository.failed_write`).
Where a setup and an owner do not fit a record, what is written stays although the write fails
(`Repository.create_misfit`, `Shelf.stored_and_refused`).
-/

namespace KeysetStore

/-! ## What the fields of a model can hold -/

/-- What a model asks of a field. -/
inductive FieldKind where
  /-- Text. -/
  | text
  /-- Text, if the field is there. -/
  | textIfThere
  /-- A 32-bit integer. -/
  | integer
  /-- A 32-bit integer, null, or no field. -/
  | integerOrNull
deriving DecidableEq

/-- **Whether a field can be read** from what is found under its name. -/
def FieldKind.admits : FieldKind → Option Value → Bool
  | text, some v => v.toText?.isSome
  | textIfThere, none => true
  | textIfThere, some v => v.toText?.isSome
  | integer, some v => v.toInt32.isOk
  | integerOrNull, none => true
  | integerOrNull, some .null => true
  | integerOrNull, some v => v.toInt32.isOk
  | _, _ => false

/-- One text is as good as another. -/
theorem FieldKind.admits_string (kind : FieldKind) (s t : String) :
    kind.admits (some (.string s)) = kind.admits (some (.string t)) := by
  rcases kind <;> rfl

namespace Document

variable {d : Document} {name : String}

theorem isOk_textField : (d.textField name).isOk = FieldKind.text.admits (Fields.get? d name) := by
  rw [textField]
  rcases Fields.get? d name with _ | v
  · rfl
  · simp only [FieldKind.admits]
    rcases v.toText? <;> rfl

theorem isOk_textFieldD {default : String} : (d.textFieldD name default).isOk
    = FieldKind.textIfThere.admits (Fields.get? d name) := by
  rw [textFieldD]
  split
  · next hthere =>
    rw [isOk_textField]
    obtain ⟨v, hv⟩ := Option.isSome_iff_exists.1 hthere
    rw [hv]
    rfl
  · next hmissing =>
    rw [Option.not_isSome_iff_eq_none.1 hmissing]
    rfl

theorem isOk_int32Field : (d.int32Field name).isOk = FieldKind.integer.admits (Fields.get? d name) := by
  rw [int32Field]
  rcases Fields.get? d name with _ | v <;> rfl

theorem isOk_int32Field? : (d.int32Field? name).isOk
    = FieldKind.integerOrNull.admits (Fields.get? d name) := by
  rw [int32Field?]
  rcases Fields.get? d name with _ | v
  · rfl
  · rcases v
    case int64 n => simp only [FieldKind.admits]; rcases (Value.int64 n).toInt32 <;> rfl
    all_goals rfl

end Document

/-- A step after another one is taken where the other one is, if whether it is does not depend on
what the other one gives. -/
theorem isOk_bind {α β : Type} {step : Except Error α} {next : α → Except Error β} {b : Bool}
    (h : ∀ a, (next a).isOk = b) : (step >>= next).isOk = (step.isOk && b) := by
  rcases step with e | a
  · rfl
  · exact h a

/-- **A setup and an owner fit models that take some fields**: they take the identifier and the owner
that are written to them.  An owner under the name of the key or of the identifier is overwritten
before the model is read. -/
structure Config.Fits (takes : String → Value → Prop) (config : Config) (scope : Option Value) :
    Prop where
  identifier : ∀ text, takes config.idField (.string text)
  owner : ∀ owner ∈ scope, config.scopeField ≠ primaryKey → config.scopeField ≠ config.idField →
    takes config.scopeField owner

/-! ## The records of the library -/

/-- The kinds of records that the library has a codec for. -/
inductive RecordKind where
  | product
  | task
  | label

namespace RecordKind

/-- The records of a kind. -/
def Model : RecordKind → Type
  | product => Product
  | task => Task
  | label => Label

/-- Their codec. -/
def codec : (kind : RecordKind) → Codec kind.Model
  | product => Product.codec
  | task => Task.codec
  | label => Label.codec

/-- **The fields that a record of a kind is read from**, as far as not every value will do. -/
def shape : RecordKind → Fields FieldKind
  | product =>
    [("id", .textIfThere), ("name", .text), ("category", .text), ("price", .integer)]
  | task => [("id", .textIfThere), ("name", .text), ("rank", .integerOrNull)]
  | label => []

/-- **A record is read where each of its fields can be**, and only there. -/
theorem isOk_decode (kind : RecordKind) (d : Document) : (kind.codec.decode d).isOk
    = kind.shape.all fun field => field.2.admits (Fields.get? d field.1) := by
  rcases kind
  case label => rfl
  case product =>
    calc (Product.codec.decode d).isOk
        = ((d.textFieldD "id" "").isOk && ((d.textField "name").isOk
            && ((d.textField "category").isOk && ((d.int32Field "price").isOk && true)))) :=
          isOk_bind fun _ => isOk_bind fun _ => isOk_bind fun _ => isOk_bind fun _ => rfl
      _ = _ := by
        rw [Document.isOk_textFieldD, Document.isOk_textField, Document.isOk_textField,
          Document.isOk_int32Field]
        rfl
  case task =>
    calc (Task.codec.decode d).isOk
        = ((d.textFieldD "id" "").isOk && ((d.textField "name").isOk
            && ((d.int32Field? "rank").isOk && true))) :=
          isOk_bind fun _ => isOk_bind fun _ => isOk_bind fun _ => rfl
      _ = _ := by
        rw [Document.isOk_textFieldD, Document.isOk_textField, Document.isOk_int32Field?]
        rfl

/-- **What a record is written to can be read.** -/
theorem admits_of_encode {kind : RecordKind} {model : kind.Model} {d : Document}
    (h : kind.codec.encode model = .ok d) :
    ∀ field ∈ kind.shape, field.2.admits (Fields.get? d field.1) = true := by
  rcases kind
  case label => exact nofun
  case product =>
    obtain rfl := Except.ok.inj h
    simp [shape, Fields.get?_cons, FieldKind.admits, Value.toText?, Value.toInt32, Except.isOk,
      Except.toBool]
  case task =>
    obtain ⟨id, name, rank⟩ : Task := model
    obtain rfl := Except.ok.inj h
    rcases rank with _ | rank <;>
      simp [shape, Fields.get?_cons, FieldKind.admits, Value.toText?, Value.toInt32, Except.isOk,
        Except.toBool]

/-- The key is not among the fields that a record is read from. -/
theorem ne_primaryKey_of_mem_shape {kind : RecordKind} :
    ∀ field ∈ kind.shape, field.1 ≠ primaryKey := by
  rcases kind <;> decide

theorem eq_of_mem_shape_of_id {kind : RecordKind} :
    ∀ field ∈ kind.shape, field.1 = "id" → field = ("id", .textIfThere) := by
  rcases kind <;> decide

/-- Whether a value can stand in the field of a name, as far as a record is read from it. -/
def Takes (kind : RecordKind) (name : String) (v : Value) : Prop :=
  ∀ field ∈ kind.shape, field.1 = name → field.2.admits (some v) = true

/-- **The usual setups fit**: the identifier in its own field, or in one that is not read, and the
owner in one that is not read. -/
theorem fits_of_names {kind : RecordKind} {config : Config} (scope : Option Value)
    (hid : ∀ field ∈ kind.shape, field.1 = config.idField → field.1 = "id")
    (hscope : ∀ field ∈ kind.shape, field.1 ≠ config.scopeField) : config.Fits kind.Takes scope where
  identifier text field hfield hname := by
    obtain rfl : field = ("id", .textIfThere) :=
      eq_of_mem_shape_of_id field hfield (hid field hfield hname)
    rfl
  owner _ _ _ _ field hfield hname := absurd hname (hscope field hfield)

end RecordKind

/-! ## Values as models -/

/-- **A codec of values**, with what is asked of a serialization: a plain document is read, as
whichever value, and a plain value is written as a plain document.  What becomes of reserved names is
left to it, and so is whether a value that is read is the one that was written. -/
structure ValueSerialization where
  codec : Codec Value
  reads_plain : ∀ d : Document, d.isPlain → (codec.decode d).isOk
  writes_plain : ∀ (v : Value) (d : Document), v.isPlain → codec.encode v = .ok d → d.isPlain

/-- The codec that refuses reserved names is one. -/
def ValueSerialization.refusing : ValueSerialization where
  codec := Codec.value
  reads_plain d h := by
    rw [Codec.value_decode h]
    rfl
  writes_plain v d hplain hencode := by
    rcases v
    case document fields =>
      obtain rfl := Except.ok.inj hencode
      exact hplain
    all_goals cases hencode

/-! ## The models of the library -/

/-- The kinds of models that the library has a codec for. -/
inductive ModelKind where
  /-- A record of its own. -/
  | record (kind : RecordKind)
  /-- Any value, through a serialization. -/
  | value (values : ValueSerialization)

namespace ModelKind

/-- The models of a kind. -/
def Model : ModelKind → Type
  | record kind => kind.Model
  | value _ => Value

/-- Their codec. -/
def codec : (kind : ModelKind) → Codec kind.Model
  | record kind => kind.codec
  | value values => values.codec

/-- **A setup, an owner and a model fit.**  Any record does where its setup and owner do; a value has
to be plain itself. -/
def Fits : (kind : ModelKind) → Config → Option Value → kind.Model → Prop
  | record kind, config, scope, _ => config.Fits kind.Takes scope
  | value _, config, scope, (model : Value) => model.isPlain ∧ config.Fits IsPlainField scope

end ModelKind

/-! ## The reply to a write -/

/-- The document that the model of a body is read from: the text of the key stands in the identifier
field, and the key is gone. -/
theorem Codec.loadAs_eq_decode {α : Type} (codec : Codec α) (idField : String) (body : Document)
    (key : ObjectId) : codec.loadAs idField body key
      = codec.decode (Fields.insert (Fields.erase body primaryKey) idField (.string key.toHex)) := by
  rw [loadAs, load, withIdentifier, Fields.get?_insert, if_pos rfl, Fields.erase_insert_self]

namespace Repository

variable {σ α : Type} {r : Repository σ α} {model : α} {scope : Option Value} {body : Document}

/-- **The body of a model** is what the codec writes, but for the key, the identifier and the owner. -/
theorem exists_encode_of_body (hbody : r.body model scope = .ok body) :
    ∃ d, r.codec.encode model = .ok d ∧ ∀ name, name ≠ primaryKey → name ≠ r.config.idField →
      (∀ _ ∈ scope, r.config.scopeField ≠ name) → Fields.get? body name = Fields.get? d name := by
  obtain ⟨plain, hplain, rfl⟩ := map_eq_ok_iff.1 hbody
  obtain ⟨d, hencode, rfl⟩ := map_eq_ok_iff.1 hplain
  refine ⟨d, hencode, fun name hkey hid hscope => ?_⟩
  rcases scope with _ | v
  · simp [owner, Document.ownedBy, hkey.symm, hid.symm]
  · simp [owner, Document.ownedBy, hkey.symm, hid.symm, hscope v rfl]

/-- The owner stands in the body as it is. -/
theorem get?_body_of_mem (hbody : r.body model scope = .ok body) :
    ∀ owner ∈ scope, Fields.get? body r.config.scopeField = some owner := by
  rintro owner ⟨⟩
  obtain ⟨plain, -, rfl⟩ := map_eq_ok_iff.1 hbody
  exact Document.get?_ownedBy

end Repository

section Reply

variable {σ : Type} {scope : Option Value} {body : Document}

/-- **The reply to a record that was written is read where setup and owner fit**, and only there. -/
theorem RecordKind.isOk_loadAs {kind : RecordKind} {r : Repository σ kind.Model} {model : kind.Model}
    (hcodec : r.codec = kind.codec) (hbody : r.body model scope = .ok body) (key : ObjectId) :
    (r.codec.loadAs r.config.idField body key).isOk = true ↔ r.config.Fits kind.Takes scope := by
  have hother {name : String} (hkey : name ≠ primaryKey) (hid : r.config.idField ≠ name) :
      Fields.get? (Fields.insert (Fields.erase body primaryKey) r.config.idField
        (.string key.toHex)) name = Fields.get? body name := by
    rw [Fields.get?_insert, if_neg hid, Fields.get?_erase, if_neg hkey.symm]
  rw [Codec.loadAs_eq_decode, hcodec, isOk_decode, List.all_eq_true]
  constructor
  · intro hreply
    refine ⟨?_, ?_⟩
    · rintro text field hfield hid
      have hadmits := hreply field hfield
      rw [Fields.get?_insert, if_pos hid.symm] at hadmits
      rwa [FieldKind.admits_string]
    · rintro owner howner hkey hid field hfield hname
      have hadmits := hreply field hfield
      rwa [hname, hother hkey hid.symm, Repository.get?_body_of_mem hbody owner howner] at hadmits
  · intro hfits field hfield
    have hkey := ne_primaryKey_of_mem_shape field hfield
    by_cases hid : r.config.idField = field.1
    · rw [Fields.get?_insert, if_pos hid]
      exact hfits.identifier _ field hfield hid.symm
    · rw [hother hkey hid]
      by_cases hscope : ∀ _ ∈ scope, r.config.scopeField ≠ field.1
      · obtain ⟨d, hencode, hsame⟩ := Repository.exists_encode_of_body hbody
        rw [hsame _ hkey (Ne.symm hid) hscope]
        rw [hcodec] at hencode
        exact admits_of_encode hencode field hfield
      · obtain ⟨owner, howner, hname⟩ : ∃ owner ∈ scope, r.config.scopeField = field.1 := by
          simpa using hscope
        rw [← hname, Repository.get?_body_of_mem hbody owner howner]
        exact hfits.owner owner howner (hname ▸ hkey) (hname ▸ Ne.symm hid) field hfield hname.symm

/-- What fits is written over a plain document and leaves it plain, once the key is gone and the
identifier set. -/
theorem Config.Fits.isPlain_reply {config : Config} {d : Document}
    (hfits : config.Fits IsPlainField scope) (hd : d.isPlain) (text : String) :
    Document.isPlain (Fields.insert (Fields.erase
      (Document.ownedBy d (scope.map (config.scopeField, ·))) primaryKey) config.idField
      (.string text)) := by
  have hid := hfits.identifier text
  have hrest := Document.isPlain_erase hd primaryKey
  rcases scope with _ | owner
  · exact Document.isPlain_insert hrest hid
  simp only [Option.map_some, Document.ownedBy]
  by_cases hkey : config.scopeField = primaryKey
  · rw [hkey, Fields.erase_insert_self]
    exact Document.isPlain_insert hrest hid
  rw [Fields.erase_insert_of_ne hkey]
  by_cases hsame : config.scopeField = config.idField
  · rw [hsame, Fields.insert_insert_self]
    exact Document.isPlain_insert hrest hid
  · exact Document.isPlain_insert
      (Document.isPlain_insert hrest (hfits.owner owner rfl hkey hsame)) hid

/-- **The reply to a value that was written is read where setup and owner fit and it is plain.** -/
theorem ValueSerialization.isOk_loadAs {values : ValueSerialization} {r : Repository σ Value}
    {model : Value} (hcodec : r.codec = values.codec) (hmodel : model.isPlain)
    (hfits : r.config.Fits IsPlainField scope) (hbody : r.body model scope = .ok body)
    (key : ObjectId) : (r.codec.loadAs r.config.idField body key).isOk = true := by
  obtain ⟨written, hwritten, rfl⟩ := map_eq_ok_iff.1 hbody
  obtain ⟨d, hencode, rfl⟩ := map_eq_ok_iff.1 hwritten
  rw [hcodec] at hencode
  have hplain := values.writes_plain model d hmodel hencode
  rw [Codec.loadAs_eq_decode, hcodec]
  exact values.reads_plain _
    (hfits.isPlain_reply (Document.isPlain_erase (Document.isPlain_erase hplain _) _) _)

/-- **The reply to a write is read where setup, owner and model fit.** -/
theorem ModelKind.isOk_loadAs : {kind : ModelKind} → {r : Repository σ kind.Model} →
    {model : kind.Model} → r.codec = kind.codec → kind.Fits r.config scope model →
    r.body model scope = .ok body → (key : ObjectId) →
    (r.codec.loadAs r.config.idField body key).isOk = true
  | .record _, _, _, hcodec, hfits, hbody, key =>
    (RecordKind.isOk_loadAs hcodec hbody key).2 hfits
  | .value _, _, _, hcodec, hfits, hbody, key =>
    ValueSerialization.isOk_loadAs hcodec hfits.1 hfits.2 hbody key

end Reply

/-! ## Writes that fail -/

/-- **Two memories hold the same documents**, in each collection. -/
def Memory.SameDocuments (m m' : Memory) : Prop :=
  ∀ collection, m'.store.documents collection = m.store.documents collection

theorem Memory.SameDocuments.refl (m : Memory) : m.SameDocuments m := fun _ => rfl

/-- A document that is refused is not stored. -/
theorem Memory.sameDocuments_insertOne {supply : Nat → ObjectId} {collection : String} {d : Document}
    {m m' : Memory} {e : Error} (h : insertOne supply collection d m = (.error e, m')) :
    m.SameDocuments m' := by
  intro other
  obtain ⟨hrefused, rfl⟩ := Prod.mk.inj ((insertOne_apply ..).symm.trans h)
  rcases Store.insertOne_failed hrefused with hsame | ⟨hmissing, hopened⟩
  · exact congrArg (Store.documents · other) hsame
  · refine (congrArg (Store.documents · other) hopened).trans ?_
    exact (Store.opens_withDocuments hmissing).documents other

/-- A change that is not counted is not made. -/
theorem Memory.writing_changeFirst_state {collection : String} {selector : Document}
    {change : List Document → Nat → List Document} {outcome : Except Error Nat} {m m' : Memory}
    (h : writing (fun s => s.changeFirst collection selector change) m = (outcome, m')) :
    outcome = .ok 1 ∨ m' = m := by
  have hwriting : writing (fun s => s.changeFirst collection selector change) m
      = ((m.store.changeFirst collection selector change).1,
          { m with store := (m.store.changeFirst collection selector change).2 }) := rfl
  obtain ⟨rfl, rfl⟩ := Prod.mk.inj (hwriting.symm.trans h)
  rcases m.store.changeFirst_state collection selector change with hcounted | hsame
  · exact .inl hcounted
  · exact .inr (congrArg (fun store => { m with store }) hsame)

namespace Repository

variable {α : Type} {r : Repository Memory α} {supply : Nat → ObjectId} {model : α}
  {scope : Option Value} {id : String} {m m' : Memory} {e : Error}

section

variable (hr : r.backend = Memory.backend supply)
include hr

theorem ensureReady_state {outcome : Except Error Unit} (h : r.ensureReady m = (outcome, m')) :
    m' = m :=
  (Prod.mk.inj (h.symm.trans (reads_ensureReady hr m))).2

/-- **Creating a model fails** before anything is stored, or because the reply cannot be read. -/
theorem create_failed (h : r.create model scope m = (.error e, m')) :
    m.SameDocuments m' ∨ ∃ body key, r.body model scope = .ok body ∧
      r.codec.loadAs r.config.idField body key = .error e ∧
      m' = (Write.insert r.config.collection body).apply supply m := by
  simp only [create, Action.bind_eq_error_iff, Action.lift_eq_ok_iff,
    Action.lift_eq_error_iff] at h
  rcases h with ⟨-, rfl⟩ | ⟨body, _, ⟨hbody, rfl⟩, hrest⟩
  · exact .inl (.refl _)
  rcases hrest with hnot | ⟨_, _, hready, hrest⟩
  · exact .inl (ensureReady_state hr hnot ▸ .refl _)
  obtain rfl := ensureReady_state hr hready
  rw [hr] at hrest
  rcases hrest with hrefused | ⟨key, _, hstored, hload, rfl⟩
  · exact .inl (Memory.sameDocuments_insertOne hrefused)
  · exact .inr ⟨body, key, hbody, hload, congrArg Prod.snd hstored.symm⟩

/-- **Replacing a model fails** before anything is replaced, or because the reply cannot be read. -/
theorem update_failed (h : r.update id model scope m = (.error e, m')) :
    m' = m ∨ ∃ key body, keyOf id = .ok key ∧ r.body model scope = .ok body ∧
      r.codec.loadAs r.config.idField body key = .error e ∧
      m' = (Write.replace r.config.collection (keySelector key (r.owner scope)) body).apply supply m
    := by
  simp only [update, Action.bind_eq_error_iff, Action.lift_eq_ok_iff,
    Action.lift_eq_error_iff] at h
  rcases h with ⟨-, rfl⟩ | ⟨key, _, ⟨hkey, rfl⟩, ⟨-, rfl⟩ | ⟨body, _, ⟨hbody, rfl⟩, hrest⟩⟩
  · exact .inl rfl
  · exact .inl rfl
  rcases hrest with hnot | ⟨_, _, hready, hrest⟩
  · exact .inl (ensureReady_state hr hnot)
  obtain rfl := ensureReady_state hr hready
  rw [hr] at hrest
  rcases hrest with hrefused | ⟨replaced, _, hreplaced, hrest⟩
  · rcases Memory.writing_changeFirst_state hrefused with hcounted | hsame
    · cases hcounted
    · exact .inl hsame
  rcases Memory.writing_changeFirst_state hreplaced with hcounted | rfl
  · obtain rfl := Except.ok.inj hcounted
    obtain ⟨hload, rfl⟩ := Action.lift_eq_error_iff.1 hrest
    exact .inr ⟨key, body, hkey, hbody, hload, congrArg Prod.snd hreplaced.symm⟩
  -- What comes after the replacement does not touch the memory.
  · refine .inl ?_
    split at hrest
    · exact (Prod.mk.inj hrest).2.symm
    · exact (Action.lift_eq_error_iff.1 hrest).2

/-- **Deleting a model that fails** deletes nothing. -/
theorem delete_failed (h : r.delete id scope m = (.error e, m')) : m' = m := by
  simp only [delete, Action.bind_eq_error_iff, Action.lift_eq_ok_iff,
    Action.lift_eq_error_iff] at h
  rcases h with ⟨-, rfl⟩ | ⟨key, _, ⟨hkey, rfl⟩, hnot | ⟨_, _, hready, hrest⟩⟩
  · rfl
  · exact ensureReady_state hr hnot
  obtain rfl := ensureReady_state hr hready
  rw [hr] at hrest
  rcases hrest with hrefused | ⟨deleted, _, hdeleted, hrest⟩
  · rcases Memory.writing_changeFirst_state hrefused with hcounted | hsame
    · cases hcounted
    · exact hsame
  rcases Memory.writing_changeFirst_state hdeleted with hcounted | rfl
  · obtain rfl := Except.ok.inj hcounted
    cases hrest
  · split at hrest
    · exact (Prod.mk.inj hrest).2.symm
    · cases hrest

end

/-! ## Over the models of the library -/

/-- **A write that fails has changed no document**, in no collection.  The exception is a reply that
cannot be read after the body was stored, and it takes a model that does not fit together with the
setup and the owner. -/
theorem failed_write (kind : ModelKind) {r : Repository Memory kind.Model}
    (hr : r.backend = Memory.backend supply) (hcodec : r.codec = kind.codec) (scope : Option Value)
    (m : Memory) :
    (∀ model e m', r.create model scope m = (.error e, m') → m.SameDocuments m' ∨
      ¬ kind.Fits r.config scope model ∧ ∃ body key, r.body model scope = .ok body ∧
        r.codec.loadAs r.config.idField body key = .error e ∧
        m' = (Write.insert r.config.collection body).apply supply m) ∧
    (∀ id model e m', r.update id model scope m = (.error e, m') → m.SameDocuments m' ∨
      ¬ kind.Fits r.config scope model ∧ ∃ key body, keyOf id = .ok key ∧
        r.body model scope = .ok body ∧ r.codec.loadAs r.config.idField body key = .error e ∧
        m' = (Write.replace r.config.collection (keySelector key (r.owner scope)) body).apply
          supply m) ∧
    ∀ id e m', r.delete id scope m = (.error e, m') → m.SameDocuments m' := by
  have hmisfit {model : kind.Model} {body : Document} {key : ObjectId} {e : Error}
      (hbody : r.body model scope = .ok body)
      (hload : r.codec.loadAs r.config.idField body key = .error e) :
      ¬ kind.Fits r.config scope model := by
    intro hfits
    have hread := ModelKind.isOk_loadAs hcodec hfits hbody key
    rw [hload] at hread
    cases hread
  refine ⟨?_, ?_, ?_⟩
  · intro model e m' hfailed
    rcases create_failed hr hfailed with hsame | ⟨body, key, hbody, hload, hstored⟩
    · exact .inl hsame
    · exact .inr ⟨hmisfit hbody hload, body, key, hbody, hload, hstored⟩
  · intro id model e m' hfailed
    rcases update_failed hr hfailed with rfl | ⟨key, body, hkey, hbody, hload, hreplaced⟩
    · exact .inl (.refl _)
    · exact .inr ⟨hmisfit hbody hload, key, body, hkey, hbody, hload, hreplaced⟩
  · intro id e m' hfailed
    exact delete_failed hr hfailed ▸ .refl _

variable {kind : RecordKind} {r : Repository Memory kind.Model} {model : kind.Model} {body : Document}
  {key : ObjectId}

/-- A reply to a record that cannot be read is an error. -/
theorem exists_error_of_misfit (hcodec : r.codec = kind.codec)
    (hmisfit : ¬ r.config.Fits kind.Takes scope) (hbody : r.body model scope = .ok body)
    (key : ObjectId) : ∃ e, r.codec.loadAs r.config.idField body key = .error e := by
  rcases hload : r.codec.loadAs r.config.idField body key with e | reply
  · exact ⟨e, rfl⟩
  · refine absurd ((RecordKind.isOk_loadAs hcodec hbody key).1 ?_) hmisfit
    rw [hload]
    rfl

section

variable (hr : r.backend = Memory.backend supply) (hcodec : r.codec = kind.codec)
  (hmisfit : ¬ r.config.Fits kind.Takes scope) (hready : m.store.ready)
  (hbody : r.body model scope = .ok body)
include hr hcodec hmisfit hready hbody

/-- **Where setup and owner do not fit, creating fails after the record was stored.** -/
theorem create_misfit (hfor : Store.keyFor (supply (m.issuedFor body)) body = .ok key)
    (hnew : ∀ e ∈ m.store.documents r.config.collection, e.key? ≠ some key) :
    ∃ e, r.create model scope m = (.error e, m.storing r.config.collection key body) := by
  obtain ⟨e, hload⟩ := exists_error_of_misfit hcodec hmisfit hbody key
  refine ⟨e, ?_⟩
  have hinsert : r.backend.insertOne r.config.collection body m
      = (.ok key, m.storing r.config.collection key body) := by
    rw [hr]
    exact Memory.insertOne_eq_ok_iff.2 ⟨hready, hfor, hnew, rfl⟩
  rw [create, Action.bind_ok (Action.lift_eq_ok_iff.2 ⟨hbody, rfl⟩),
    Action.bind_ok ((ensureReady_eq_ok_iff hr (u := ())).2 ⟨hready, rfl⟩), Action.bind_ok hinsert]
  exact Action.lift_error hload _

/-- **Where setup and owner do not fit, replacing fails after the record was replaced.** -/
theorem update_misfit {p : Document → Bool} {place : Nat} (hid : keyOf id = .ok key)
    (hp : ∀ d ∈ m.store.documents r.config.collection,
      d.meets (keySelector key (r.owner scope)) = .ok (p d))
    (hplace : (m.store.documents r.config.collection).findIdx? p = some place) :
    ∃ e, r.update id model scope m = (.error e, m.withDocuments r.config.collection
      ((m.store.documents r.config.collection).modify place fun old =>
        Store.stored ((Fields.get? old primaryKey).getD .null) body)) := by
  obtain ⟨e, hload⟩ := exists_error_of_misfit hcodec hmisfit hbody key
  refine ⟨e, ?_⟩
  rw [update_eq hr hready hid hbody hp, hplace]
  dsimp only
  rw [hload]

end

end Repository

namespace Shelf

/-- A product with everything that is read of it. -/
def cheap : Product := ⟨"", "pro", "a", 5⟩

/-- A repository of products whose owner is their key. -/
def selfOwned : Repository Memory Product :=
  ⟨{ collection := "products", scopeField := "_id" }, Memory.backend .ofNat, Product.codec⟩

theorem fits_selfOwned (scope : Option Value) :
    selfOwned.config.Fits RecordKind.product.Takes scope :=
  RecordKind.fits_of_names scope (by decide) (by decide)

/-- A store with an empty collection of products. -/
def bare : Memory := { store := { collections := [("products", [])] } }

/-- A repository of values whose owner is their key. -/
def drafts : Repository Memory Value :=
  ⟨{ collection := "drafts", scopeField := "_id" }, Memory.backend .ofNat, Codec.value⟩

theorem fits_drafts (scope : Option Value) : drafts.config.Fits IsPlainField scope where
  identifier _ := ⟨by decide, rfl⟩
  owner _ _ hkey _ := absurd rfl hkey

/-- A store with an empty collection of drafts. -/
def undrafted : Memory := { store := { collections := [("drafts", [])] } }

/-- A product whose owner is no key is refused, as a record and as a value: its collection comes into
being, and nothing is in it. -/
theorem sameDocuments_bare :
    (selfOwned.backend = Memory.backend .ofNat ∧ selfOwned.codec = RecordKind.product.codec ∧
      selfOwned.create cheap (some (.string "alice")) {}
        = (.error (.primaryKey (.string "alice")), bare) ∧
      Memory.SameDocuments {} bare) ∧
    drafts.backend = Memory.backend .ofNat ∧ drafts.codec = ValueSerialization.refusing.codec ∧
      drafts.create pro (some (.string "alice")) {}
        = (.error (.primaryKey (.string "alice")), undrafted) ∧
      Memory.SameDocuments {} undrafted := by
  constructor
  · have hbackend : selfOwned.backend = Memory.backend .ofNat := rfl
    have hcodec : selfOwned.codec = RecordKind.product.codec := rfl
    have hrefused : selfOwned.create cheap (some (.string "alice")) {}
        = (.error (.primaryKey (.string "alice")), bare) := rfl
    refine ⟨hbackend, hcodec, hrefused, ?_⟩
    obtain ⟨hcreate, -, -⟩ :=
      Repository.failed_write (.record .product) hbackend hcodec (some (.string "alice")) {}
    rcases hcreate _ _ _ hrefused with hsame | ⟨hmisfit, -⟩
    · exact hsame
    · exact absurd (fits_selfOwned _) hmisfit
  · have hbackend : drafts.backend = Memory.backend .ofNat := rfl
    have hcodec : drafts.codec = ValueSerialization.refusing.codec := rfl
    have hrefused : drafts.create pro (some (.string "alice")) {}
        = (.error (.primaryKey (.string "alice")), undrafted) := rfl
    refine ⟨hbackend, hcodec, hrefused, ?_⟩
    obtain ⟨hcreate, -, -⟩ :=
      Repository.failed_write (.value .refusing) hbackend hcodec (some (.string "alice")) {}
    rcases hcreate _ _ _ hrefused with hsame | ⟨hmisfit, -⟩
    · exact hsame
    · exact absurd ⟨rfl, fits_drafts _⟩ hmisfit

/-- A repository of products that are owned by their category. -/
def categorized : Repository Memory Product :=
  ⟨{ collection := "products", scopeField := "category" }, Memory.backend .ofNat, Product.codec⟩

/-- The store with a product whose category is a number. -/
def miscategorized : Memory :=
  ({} : Memory).storing "products" (.ofNat 1)
    [("name", .string "pro"), ("category", .int32 7), ("price", .int32 5)]

/-- **The exception is real**: the setup is usable, creating a product fails, and it is stored;
trying again stores it twice. -/
theorem stored_and_refused : categorized.config.validate = .ok () ∧
    categorized.create cheap (some (.int32 7)) {}
      = (.error (.shape "field category holds Int32"), miscategorized) ∧
    categorized.create cheap (some (.int32 7)) miscategorized
      = (.error (.shape "field category holds Int32"),
        miscategorized.storing "products" (.ofNat 2)
          [("name", .string "pro"), ("category", .int32 7), ("price", .int32 5)]) ∧
    ¬ ({} : Memory).SameDocuments miscategorized := by
  refine ⟨rfl, rfl, rfl, fun hsame => ?_⟩
  have hproducts := hsame "products"
  cases hproducts

/-- A value with a reserved name in it is stored as well, and cannot be read back. -/
example : drafts.create (.document [("key", .document [("$oid", .int32 5)])]) none {}
    = (.error (.shape "a field has a reserved name"), ({} : Memory).storing "drafts" (.ofNat 1)
        [("key", .document [("$oid", .int32 5)])]) := rfl

end Shelf

end KeysetStore
