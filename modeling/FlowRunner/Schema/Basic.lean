import FlowRunner.Value.Basic

/-!
This module contains the reading of values that come from outside and have to have a certain form.
-/

namespace FlowRunner.Schema

inductive Place where
  | name (s : String)
  | index (n : Nat)
  deriving DecidableEq, Repr

inductive Kind where
  | missing
  | notText
  | tooShort
  | notList
  | notDict
  | notRecord
  | notInt
  | unreadableInt
  | oversizedInt
  | fractionalInt
  | notFiniteInt
  | notBool
  | unreadableBool
  | notFloat
  | unreadableFloat
  | unknownField
  | malformedJson
  | refused (reason : String)
  deriving DecidableEq, Repr

def Kind.name : Kind → String
  | missing => "missing"
  | notText => "string_type"
  | tooShort => "string_too_short"
  | notList => "list_type"
  | notDict => "dict_type"
  | notRecord => "model_attributes_type"
  | notInt => "int_type"
  | unreadableInt => "int_parsing"
  | oversizedInt => "int_parsing_size"
  | fractionalInt => "int_from_float"
  | notFiniteInt => "finite_number"
  | notBool => "bool_type"
  | unreadableBool => "bool_parsing"
  | notFloat => "float_type"
  | unreadableFloat => "float_parsing"
  | unknownField => "extra_forbidden"
  | malformedJson => "json_invalid"
  | refused _ => "value_error"

def Kind.detail? : Kind → Option String
  | refused reason => some ("Value error, " ++ reason)
  | _ => none

structure Problem where
  place : List Place
  kind : Kind
  input : Value
  deriving Repr

def Place.toValue : Place → Value
  | name s => .str s
  | index n => .int n

def Problem.toValue (p : Problem) : Value :=
  .record ([("loc", .list (p.place.map Place.toValue)), ("type", .str p.kind.name)] ++
    (p.kind.detail?.map fun detail => ("msg", Value.str detail)).toList)

inductive Checked (α : Type) where
  | valid (a : α)
  | invalid (problems : List Problem)
  deriving Repr

namespace Checked

variable {α β : Type}

def problem (kind : Kind) (input : Value) : Checked α :=
  .invalid [⟨[], kind, input⟩]

def map (f : α → β) : Checked α → Checked β
  | valid a => valid (f a)
  | invalid ps => invalid ps

def both (f : Checked (α → β)) (x : Unit → Checked α) : Checked β :=
  match f, x () with
  | valid f, valid a => valid (f a)
  | valid _, invalid ps => invalid ps
  | invalid ps, valid _ => invalid ps
  | invalid ps, invalid qs => invalid (ps ++ qs)

instance : Applicative Checked where
  pure := valid
  map := map
  seq := both

def within (place : Place) : Checked α → Checked α
  | valid a => valid a
  | invalid ps => invalid (ps.map fun p => { p with place := place :: p.place })

def andThen (x : Checked α) (f : α → Checked β) : Checked β :=
  match x with
  | valid a => f a
  | invalid ps => invalid ps

@[simp] theorem pure_eq (a : α) : (pure a : Checked α) = valid a := rfl

@[simp] theorem valid_seq_valid (f : α → β) (a : α) : (valid f <*> valid a) = valid (f a) := rfl

@[simp] theorem invalid_seq_invalid (ps qs : List Problem) :
    ((invalid ps : Checked (α → β)) <*> invalid qs) = invalid (ps ++ qs) := rfl

end Checked

abbrev Reader (α : Type) := Value → Checked α

namespace Reader

variable {α : Type}

def text : Reader String
  | .str s => .valid s
  | v => .problem .notText v

def nonemptyText : Reader String
  | .str s => if s == "" then .problem .tooShort (.str s) else .valid s
  | v => .problem .notText v

def dict : Reader Entries
  | .dict entries => .valid entries
  | v => .problem .notDict v

def nullable (read : Reader α) : Reader (Option α)
  | .null => .valid none
  | v => (read v).map some

def items (read : Reader α) : (first : Nat) → List Value → Checked (List α)
  | _, [] => .valid []
  | n, v :: rest => List.cons <$> (read v).within (.index n) <*> items read (n + 1) rest

def list (read : Reader α) : Reader (List α)
  | .list vs => items read 0 vs
  | v => .problem .notList v

def record (read : Entries → Checked α) : Reader α
  | .dict entries => read entries
  | v => .problem .notRecord v

end Reader

structure Names where
  first : String
  others : List String := []

namespace Names

def all (n : Names) : List String :=
  n.first :: n.others

def present? (n : Names) (entries : Entries) : Option String :=
  n.all.find? fun s => Entries.has entries (.str s)

end Names

variable {α : Type}

def required (names : Names) (read : Reader α) (entries : Entries) : Checked α :=
  match names.present? entries with
  | some s => (read (Entries.get entries (.str s))).within (.name s)
  | none => (Checked.problem .missing (.dict entries)).within (.name names.first)

def optional (names : Names) (default : α) (read : Reader α) (entries : Entries) : Checked α :=
  match names.present? entries with
  | some s => (read (Entries.get entries (.str s))).within (.name s)
  | none => .valid default

end FlowRunner.Schema
