import MarkupEditor.Number.Binary64

/-!
# Attribute values

Attributes hold values of any kind.  Two values are alike when a reader cannot
tell them apart: truth values count as the numbers zero and one, integers and
doubles compare by the number they stand for, and the fields of a record have
no order.  Alikeness is equality of signatures, hence an equivalence; it is
weaker than being the very same value.
-/

namespace MarkupEditor

inductive Value where
  | null
  | bool (value : Bool)
  | integer (value : Int)
  | real (value : Binary64)
  | text (value : String)
  | list (items : List Value)
  | record (fields : List (String × Value))
  | font (family size : Value)
deriving Inhabited

namespace Value

/-- One piece of the signature of a value. -/
inductive Mark where
  | null
  | number (value : Rat)
  | infinite (negative : Bool)
  | nan (occurrence : Occurrence)
  | text (value : String)
  | list (size : Nat)
  | record (size : Nat)
  | field (name : String)
  | font
deriving DecidableEq

def realMark : Binary64 → Mark
  | .finite value => .number value
  | .negativeZero => .number 0
  | .infinite negative => .infinite negative
  | .nan occurrence => .nan occurrence

/-- Puts a field into a list ordered by name. -/
def insertField (name : String) (marks : List Mark) :
    List (String × List Mark) → List (String × List Mark)
  | [] => [(name, marks)]
  | head :: rest =>
    if name < head.1 then (name, marks) :: head :: rest
    else head :: insertField name marks rest

mutual

/-- The signature of a value: its parts in a fixed order, numbers reduced to the
rational they stand for. -/
def signature : Value → List Mark
  | .null => [.null]
  | .bool value => [.number (if value then 1 else 0)]
  | .integer value => [.number value]
  | .real value => [realMark value]
  | .text value => [.text value]
  | .list items => .list items.length :: itemSignatures items
  | .record fields =>
    .record fields.length ::
      (fieldSignatures fields).flatMap fun field => .field field.1 :: field.2
  | .font family size => .font :: (family.signature ++ size.signature)

def itemSignatures : List Value → List Mark
  | [] => []
  | item :: rest => item.signature ++ itemSignatures rest

/-- The signatures of record fields, ordered by name. -/
def fieldSignatures : List (String × Value) → List (String × List Mark)
  | [] => []
  | (name, value) :: rest => insertField name value.signature (fieldSignatures rest)

end

/-- Two values that nothing but their spelling tells apart. -/
def Alike (left right : Value) : Prop := left.signature = right.signature

/-- Compares signatures, but makes none for two texts, for two integers, or for
a value and itself. -/
def isAlike (left right : Value) : Bool :=
  match left, right with
  | .text left, .text right => left == right
  | .integer left, .integer right => left == right
  | left, right =>
    withPtrEq left right (fun _ => left.signature == right.signature) (by rintro rfl; simp)

theorem isAlike_iff (left right : Value) : left.isAlike right = true ↔ Alike left right := by
  unfold isAlike
  split
  · simp [Alike, signature]
  · simp [Alike, signature]
  · simp [withPtrEq, Alike]

instance (left right : Value) : Decidable (Alike left right) :=
  decidable_of_iff _ (isAlike_iff left right)

theorem Alike.refl (value : Value) : Alike value value := rfl

theorem Alike.symm {left right : Value} (h : Alike left right) : Alike right left := Eq.symm h

theorem Alike.trans {first second third : Value} (h : Alike first second)
    (h' : Alike second third) : Alike first third := Eq.trans h h'

/-- Two optional values that are both absent or both present and alike. -/
def AlikeOption (left right : Option Value) : Prop :=
  left.map signature = right.map signature

instance : (left right : Option Value) → Decidable (AlikeOption left right)
  | none, none => isTrue rfl
  | none, some _ => isFalse nofun
  | some _, none => isFalse nofun
  | some left, some right =>
    decidable_of_iff (Alike left right) (by simp [Alike, AlikeOption])

/-- The first list or record in a value, or in a part of it.  A value without one
can be looked up in a table. -/
def aggregate? : Value → Option Value
  | .list items => some (.list items)
  | .record fields => some (.record fields)
  | .font family size => family.aggregate? <|> size.aggregate?
  | _ => none

mutual

/-- The value that the same text gives when it is read another time. -/
def reread (turn : Nat) : Value → Value
  | .real number => .real (number.reread turn)
  | .list items => .list (rereadItems turn items)
  | .record fields => .record (rereadFields turn fields)
  | .font family size => .font (family.reread turn) (size.reread turn)
  | value => value

def rereadItems (turn : Nat) : List Value → List Value
  | [] => []
  | item :: rest => item.reread turn :: rereadItems turn rest

def rereadFields (turn : Nat) : List (String × Value) → List (String × Value)
  | [] => []
  | (name, value) :: rest => (name, value.reread turn) :: rereadFields turn rest

end

end Value

end MarkupEditor
