import SmppGateway.Foundation.Text

/-!
# Records written field by field

A record is written by appending its fields to a vector, one after the other, and read by taking
them off the front of a buffer and building the record from them. A field may refuse a value it
cannot represent; what the fields before it appended then stays in the vector.

## The model

`FieldCodec α Rest` is a way to write and read values of one type together with the laws the records
rely on; `Rest` says which bytes may follow the field. A field that marks its own end takes anything
after it, one that takes the rest of the buffer takes nothing. `Members S C` is the table of a
record's fields in order, where `C` is the type of the function that builds the record from the
fields still to come, so that a table whose fields do not make up the record does not exist.

A text that ends at the first zero byte can be written with a zero byte inside, and is then read
differently; `terminated` names these texts, and the laws about reading back are about records whose
terminated texts have no zero byte.

## What is proved

* `Layout.serializeTo_of_fits`, `Layout.serializeTo_of_not_fits` — writing succeeds exactly when every
  field takes its value.
* `Layout.deserialize_wire` — a clean record that was written is read back.
* `Layout.deserialize_sound` — every record that is read can be written, and is clean.
-/

namespace SmppGateway.Foundation

/-- Any bytes. -/
abbrev Anything (_ : Bytes) : Prop := True

/-- No bytes. -/
abbrev Nothing (rest : Bytes) : Prop := rest = []

/-- A way to write and to read the values of a type. -/
structure FieldCodec (α : Type) (Rest : Bytes → Prop) where
  /-- Take a value off the front of a buffer; the name goes into the texts of exceptions. -/
  deserialize : (name buf : Bytes) → Except Fault (α × Bytes)
  /-- Append a value to a vector. -/
  serializeTo : (name vec : Bytes) → α → Bytes × Except Fault Unit
  /-- The values that can be written. -/
  Fits : α → Prop
  /-- The bytes of a value. -/
  wire : α → Bytes
  /-- The texts in a value whose end is marked by a zero byte. -/
  terminated : α → List Bytes
  /-- A value that fits is appended. -/
  serializeTo_of_fits : ∀ name vec val, Fits val → serializeTo name vec val = (vec ++ wire val, .ok ())
  /-- A value that does not fit is refused before anything is appended. -/
  serializeTo_of_not_fits : ∀ name val, ¬ Fits val →
    ∃ what, ∀ vec, serializeTo name vec val = (vec, .error (.exception what))
  /-- What was written is read back. -/
  deserialize_wire : ∀ name val rest, Fits val → (∀ s ∈ terminated val, 0 ∉ s) → Rest rest →
    deserialize name (wire val ++ rest) = .ok (val, rest)
  /-- What is read fits, and has no zero byte in a terminated text. -/
  deserialize_sound : ∀ name buf val rest, deserialize name buf = .ok (val, rest) →
    Fits val ∧ ∀ s ∈ terminated val, 0 ∉ s

/-- One field of a record: how it is coded, where it is, what it is called. -/
structure Meta (S T : Type) (Rest : Bytes → Prop) where
  /-- How its values are written and read. -/
  codec : FieldCodec T Rest
  /-- Where it is in the record. -/
  ptr : S → T
  /-- Its name. -/
  name : Bytes

/-- The fields of a record of type `S` still to come, for a function of type `C` that builds the record
from them. -/
inductive Members (S : Type) : Type → Type 1 where
  /-- No field is left. -/
  | done : Members S S
  /-- A field that marks its own end, and the fields after it. -/
  | field {T C : Type} (m : Meta S T Anything) (rest : Members S C) : Members S (T → C)
  /-- A last field that takes the rest of the buffer. -/
  | tail {T : Type} (m : Meta S T Nothing) : Members S (T → S)

namespace Members

variable {S : Type}

/-- Append the fields of a record, up to the first that refuses its value. -/
def serializeTo {C : Type} (ms : Members S C) (vec : Bytes) (obj : S) : Bytes × Except Fault Unit :=
  match ms with
  | .done => (vec, .ok ())
  | .field m rest =>
    match m.codec.serializeTo m.name vec (m.ptr obj) with
    | (vec, .ok ()) => rest.serializeTo vec obj
    | (vec, .error e) => (vec, .error e)
  | .tail m => m.codec.serializeTo m.name vec (m.ptr obj)

/-- Take the fields off a buffer and build the record. -/
def deserialize {C : Type} (ms : Members S C) (make : C) (buf : Bytes) : Except Fault S :=
  match ms with
  | .done => .ok make
  | .field m rest =>
    match m.codec.deserialize m.name buf with
    | .ok (val, buf) => rest.deserialize (make val) buf
    | .error e => .error e
  | .tail m => (m.codec.deserialize m.name buf).map fun (val, _) => make val

/-- Every field takes its value. -/
def Fits {C : Type} (ms : Members S C) (obj : S) : Prop :=
  match ms with
  | .done => True
  | .field m rest => m.codec.Fits (m.ptr obj) ∧ rest.Fits obj
  | .tail m => m.codec.Fits (m.ptr obj)

/-- The bytes of a record. -/
def wire {C : Type} (ms : Members S C) (obj : S) : Bytes :=
  match ms with
  | .done => []
  | .field m rest => m.codec.wire (m.ptr obj) ++ rest.wire obj
  | .tail m => m.codec.wire (m.ptr obj)

/-- The terminated texts of a record. -/
def terminated {C : Type} (ms : Members S C) (obj : S) : List Bytes :=
  match ms with
  | .done => []
  | .field m rest => m.codec.terminated (m.ptr obj) ++ rest.terminated obj
  | .tail m => m.codec.terminated (m.ptr obj)

/-- The record built from the fields of another. -/
def rebuild {C : Type} (ms : Members S C) (make : C) (obj : S) : S :=
  match ms with
  | .done => make
  | .field m rest => rest.rebuild (make (m.ptr obj)) obj
  | .tail m => make (m.ptr obj)

/-- Every record built has a property. -/
def ForAll {C : Type} (ms : Members S C) (p : S → Prop) (make : C) : Prop :=
  match ms with
  | .done => p make
  | .field _ rest => ∀ val, rest.ForAll p (make val)
  | .tail _ => ∀ val, p (make val)

/-- Every record built has the values it was built from. -/
def Projects {C : Type} (ms : Members S C) (make : C) : Prop :=
  match ms with
  | .done => True
  | .field m rest =>
    ∀ val, rest.ForAll (fun obj => m.ptr obj = val) (make val) ∧ rest.Projects (make val)
  | .tail m => ∀ val, m.ptr (make val) = val

theorem serializeTo_of_fits {C : Type} (ms : Members S C) (vec : Bytes) {obj : S} (h : ms.Fits obj) :
    ms.serializeTo vec obj = (vec ++ ms.wire obj, .ok ()) := by
  induction ms generalizing vec with
  | done => simp [serializeTo, wire]
  | field m rest ih =>
    rw [serializeTo, m.codec.serializeTo_of_fits _ _ _ h.1]
    simp only
    rw [ih _ h.2, wire, List.append_assoc]
  | tail m => exact m.codec.serializeTo_of_fits _ _ _ h

/-- A record with a value that does not fit: some fields are appended, then there is an exception. -/
theorem serializeTo_of_not_fits {C : Type} (ms : Members S C) {obj : S} (h : ¬ ms.Fits obj) :
    ∃ written what, ∀ vec, ms.serializeTo vec obj = (vec ++ written, .error (.exception what)) := by
  induction ms with
  | done => exact absurd trivial h
  | field m rest ih =>
    by_cases hm : m.codec.Fits (m.ptr obj)
    · obtain ⟨written, what, hw⟩ := ih fun hrest => h ⟨hm, hrest⟩
      refine ⟨m.codec.wire (m.ptr obj) ++ written, what, ?_⟩
      intro vec
      rw [serializeTo, m.codec.serializeTo_of_fits _ _ _ hm]
      simpa only [List.append_assoc] using hw (vec ++ m.codec.wire (m.ptr obj))
    · obtain ⟨what, hw⟩ := m.codec.serializeTo_of_not_fits m.name _ hm
      exact ⟨[], what, fun vec => by rw [serializeTo, hw, List.append_nil]⟩
  | tail m =>
    obtain ⟨what, hw⟩ := m.codec.serializeTo_of_not_fits m.name _ h
    exact ⟨[], what, fun vec => by rw [serializeTo, hw, List.append_nil]⟩

/-- Reading what was written gives the record built from the same values. -/
theorem deserialize_wire {C : Type} (ms : Members S C) (make : C) {obj : S} (hfits : ms.Fits obj)
    (hclean : ∀ s ∈ ms.terminated obj, 0 ∉ s) :
    ms.deserialize make (ms.wire obj) = .ok (ms.rebuild make obj) := by
  induction ms with
  | done => rfl
  | field m rest ih =>
    rw [deserialize, wire, m.codec.deserialize_wire _ _ _ hfits.1
      (fun s hs => hclean s (List.mem_append_left _ hs)) trivial]
    exact ih _ hfits.2 fun s hs => hclean s (List.mem_append_right _ hs)
  | tail m =>
    have := m.codec.deserialize_wire m.name _ [] hfits hclean rfl
    rw [List.append_nil] at this
    rw [deserialize, wire, this]
    rfl

theorem of_deserialize {C : Type} (ms : Members S C) {make : C} {p : S → Prop} (h : ms.ForAll p make)
    {buf : Bytes} {obj : S} (hobj : ms.deserialize make buf = .ok obj) : p obj := by
  induction ms generalizing buf with
  | done => cases hobj; exact h
  | field m rest ih =>
    rw [deserialize] at hobj
    split at hobj
    · exact ih (h _) hobj
    · cases hobj
  | tail m =>
    rw [deserialize] at hobj
    cases hm : m.codec.deserialize m.name buf with
    | error e => rw [hm] at hobj; cases hobj
    | ok r => rw [hm] at hobj; cases hobj; exact h _

/-- Whatever is read fits and is clean. -/
theorem deserialize_sound {C : Type} (ms : Members S C) {make : C} (h : ms.Projects make)
    {buf : Bytes} {obj : S} (hobj : ms.deserialize make buf = .ok obj) :
    ms.Fits obj ∧ ∀ s ∈ ms.terminated obj, 0 ∉ s := by
  induction ms generalizing buf with
  | done => exact ⟨trivial, by simp [terminated]⟩
  | field m rest ih =>
    rw [deserialize] at hobj
    split at hobj
    · rename_i val buf' hm
      have hptr : m.ptr obj = val := rest.of_deserialize (h val).1 hobj
      obtain ⟨hfits, hclean⟩ := m.codec.deserialize_sound _ _ _ _ hm
      obtain ⟨hfits', hclean'⟩ := ih (h val).2 hobj
      refine ⟨⟨hptr ▸ hfits, hfits'⟩, ?_⟩
      intro s hs
      rcases List.mem_append.mp hs with hs | hs
      · exact hclean s (hptr ▸ hs)
      · exact hclean' s hs
    · cases hobj
  | tail m =>
    rw [deserialize] at hobj
    cases hm : m.codec.deserialize m.name buf with
    | error e => rw [hm] at hobj; cases hobj
    | ok r =>
      rw [hm] at hobj
      cases hobj
      obtain ⟨hfits, hclean⟩ := m.codec.deserialize_sound _ _ _ _ hm
      have hptr : m.ptr (make r.1) = r.1 := h r.1
      exact ⟨(congrArg m.codec.Fits hptr).mpr hfits, fun s hs => hclean s (by rwa [terminated, hptr] at hs)⟩

end Members

/-- The table of a record. Some of the record may be given from outside (`A`) and not be in the table. -/
structure Layout (S A : Type) where
  /-- The type of the function that builds a record. -/
  C : Type
  /-- Build a record. -/
  make : A → C
  /-- The fields. -/
  members : Members S C
  /-- What was given from outside. -/
  args : S → A
  /-- Building from the values of a record gives the record. -/
  rebuild_make : ∀ obj, members.rebuild (make (args obj)) obj = obj
  /-- A record built has the values it was built from. -/
  projects_make : ∀ a, members.Projects (make a)
  /-- And what was given. -/
  args_make : ∀ a, members.ForAll (fun obj => args obj = a) (make a)

namespace Layout

variable {S A : Type} (l : Layout S A)

/-- Append a record to a vector. -/
def serializeTo (vec : Bytes) (obj : S) : Bytes × Except Fault Unit := l.members.serializeTo vec obj

/-- Read a record. -/
def deserialize (buf : Bytes) (a : A) : Except Fault S := l.members.deserialize (l.make a) buf

/-- The record can be written. -/
def Fits (obj : S) : Prop := l.members.Fits obj

/-- The bytes of a record. -/
def wire (obj : S) : Bytes := l.members.wire obj

/-- The terminated texts of a record. -/
def terminated (obj : S) : List Bytes := l.members.terminated obj

variable {l} {obj : S} {vec : Bytes}

theorem serializeTo_of_fits (h : l.Fits obj) : l.serializeTo vec obj = (vec ++ l.wire obj, .ok ()) :=
  l.members.serializeTo_of_fits vec h

theorem serializeTo_of_not_fits (h : ¬ l.Fits obj) :
    ∃ written what, ∀ vec, l.serializeTo vec obj = (vec ++ written, .error (.exception what)) :=
  l.members.serializeTo_of_not_fits h

/-- Writing only appends, and does not look at what it appends to. -/
theorem serializeTo_eq (vec : Bytes) (obj : S) :
    l.serializeTo vec obj = (vec ++ (l.serializeTo [] obj).1, (l.serializeTo [] obj).2) := by
  by_cases h : l.Fits obj
  · rw [serializeTo_of_fits h, serializeTo_of_fits h, List.nil_append]
  · obtain ⟨written, what, hw⟩ := l.serializeTo_of_not_fits h
    rw [hw, hw, List.nil_append]

theorem fits_of_serializeTo (h : (l.serializeTo vec obj).2 = .ok ()) : l.Fits obj := by
  by_contra hn
  obtain ⟨written, what, hw⟩ := l.serializeTo_of_not_fits hn
  rw [hw] at h
  cases h

/-- **Reading back** a clean record. -/
theorem deserialize_wire (hfits : l.Fits obj) (hclean : ∀ s ∈ l.terminated obj, 0 ∉ s) :
    l.deserialize (l.wire obj) (l.args obj) = .ok obj := by
  have := l.members.deserialize_wire (l.make (l.args obj)) hfits hclean
  rwa [l.rebuild_make] at this

/-- **What is read** can be written, is clean, and has what was given. -/
theorem deserialize_sound {buf : Bytes} {a : A} (h : l.deserialize buf a = .ok obj) :
    l.Fits obj ∧ (∀ s ∈ l.terminated obj, 0 ∉ s) ∧ l.args obj = a := by
  obtain ⟨hfits, hclean⟩ := l.members.deserialize_sound (l.projects_make a) h
  exact ⟨hfits, hclean, l.members.of_deserialize (l.args_make a) h⟩

end Layout

end SmppGateway.Foundation
