import PlotStream.Value

/-!
# Equality of keys

Names of columns, arguments and linked ranges are keys. Two numbers are the same key when they are
exactly equal, whatever their types; text is compared by its code points; tuples and plot values
part by part. Some values cannot be keys at all: `unhashable?` finds the first such part.

`Entries` is a list of entries in insertion order. `Entries.insert` overwrites the value of an equal
key in place and keeps that key, and appends otherwise.
-/

namespace PlotStream

/-- A number without its type. -/
inductive ExactNumber
  | finite (d : Dyadic)
  | infinite (negative : Bool)
  | nan

namespace ExactNumber

def ofDouble (x : Double) : ExactNumber :=
  if x.isNaN then nan
  else if x.isInfinite then infinite x.isNegative
  else finite x.toDyadic

def ofInt (n : Int) : ExactNumber :=
  finite (Dyadic.ofIntWithPrec n 0)

/-- Equality; `nan` differs from everything. -/
def same : ExactNumber → ExactNumber → Bool
  | finite a, finite b => a = b
  | infinite a, infinite b => a == b
  | _, _ => false

/-- Order; `nan` is not ordered. -/
def le : ExactNumber → ExactNumber → Bool
  | finite a, finite b => a ≤ b
  | infinite true, infinite _ => true
  | infinite true, finite _ => true
  | finite _, infinite false => true
  | infinite false, infinite false => true
  | _, _ => false

end ExactNumber

namespace Value

/-- The real number a value stands for. -/
def real? : Value → Option ExactNumber
  | bool b | scalar _ (bool b) => some (ExactNumber.ofInt (if b then 1 else 0))
  | int n | scalar _ (int n) => some (ExactNumber.ofInt n)
  | float x | scalar _ (float x) => some (ExactNumber.ofDouble x)
  | _ => Option.none

/-- The real and imaginary part of the number a value stands for. -/
def number? : Value → Option (ExactNumber × ExactNumber)
  | complex re im | scalar _ (complex re im) =>
    some (ExactNumber.ofDouble re, ExactNumber.ofDouble im)
  | v => v.real?.map (·, ExactNumber.ofInt 0)

/-- The bytes a value stands for. -/
def bytes? : Value → Option (List UInt8)
  | bytes bs | scalar (.bytes _) (bytes bs) => some bs
  | _ => Option.none

/-- Equality of values that are not built from other values. -/
def atomEqual (a b : Value) : Bool :=
  match a.number?, b.number? with
  | some (re, im), some (re', im') => re.same re' && im.same im'
  | _, _ =>
    match a.codes?, b.codes? with
    | some cs, some cs' => cs == cs'
    | _, _ =>
      match a.bytes?, b.bytes? with
      | some bs, some bs' => bs == bs'
      | _, _ => false

mutual

/-- Whether two values are the same key. -/
def keyEqual : Value → Value → Bool
  | none, none => true
  | tuple as, tuple bs => keysEqual as bs
  | literal a, literal b => keyEqual a b
  | field a, field b => keyEqual a b
  | constant a, constant b => keyEqual a b
  | model a as, model b bs => keyEqual a b && entriesEqual as bs
  | glyph a s as, glyph b t bs => keyEqual a b && keyEqual s t && entriesEqual as bs
  | layout a as, layout b bs => keyEqual a b && entriesEqual as bs
  | glyphAttrs a as, glyphAttrs b bs => keyEqual a b && pathsEqual as bs
  | figureAttrs as, figureAttrs bs => pathsEqual as bs
  | a, b => atomEqual a b

/-- Item by item. -/
def keysEqual : List Value → List Value → Bool
  | [], [] => true
  | a :: as, b :: bs => keyEqual a b && keysEqual as bs
  | _, _ => false

/-- Name by name and value by value. -/
def entriesEqual : List (Value × Value) → List (Value × Value) → Bool
  | [], [] => true
  | (a, x) :: as, (b, y) :: bs => keyEqual a b && keyEqual x y && entriesEqual as bs
  | _, _ => false

/-- Path by path and value by value. -/
def pathsEqual : List (List Value × Value) → List (List Value × Value) → Bool
  | [], [] => true
  | (p, x) :: as, (q, y) :: bs => keysEqual p q && keyEqual x y && pathsEqual as bs
  | _, _ => false

end

mutual

/-- The type of the first part that keeps a value from being a key. -/
def unhashable? : Value → Option String
  | list _ | cyclicList => some "list"
  | set _ => some "set"
  | dict _ | cyclicDict => some "dict"
  | array _ _ _ => some "numpy.ndarray"
  | tuple items => unhashableInItems? items
  | literal v => v.unhashable?
  | field v => v.unhashable?
  | constant v => v.unhashable?
  | model ctor args => ctor.unhashable?.or (unhashableInEntries? args)
  | glyph method src args =>
    method.unhashable?.or (src.unhashable?.or (unhashableInEntries? args))
  | layout ctor args => ctor.unhashable?.or (unhashableInEntries? args)
  | glyphAttrs ctor pairs => ctor.unhashable?.or (unhashableInPaths? pairs)
  | figureAttrs pairs => unhashableInPaths? pairs
  | _ => Option.none

/-- The first such part of some items. -/
def unhashableInItems? : List Value → Option String
  | [] => Option.none
  | v :: vs => v.unhashable?.or (unhashableInItems? vs)

/-- The first such part of some entries. -/
def unhashableInEntries? : List (Value × Value) → Option String
  | [] => Option.none
  | (k, v) :: es => k.unhashable?.or (v.unhashable?.or (unhashableInEntries? es))

/-- The first such part of some attribute assignments. -/
def unhashableInPaths? : List (List Value × Value) → Option String
  | [] => Option.none
  | (p, v) :: es => (unhashableInItems? p).or (v.unhashable?.or (unhashableInPaths? es))

end

end Value

/-- Entries in the order of their first insertion. -/
abbrev Entries (α : Type) := List (Value × α)

namespace Entries

variable {α : Type}

/-- The value of a key. -/
def get? (es : Entries α) (key : Value) : Option α :=
  (es.find? fun e => e.1.keyEqual key).map Prod.snd

/-- Whether a key is present. -/
def contains (es : Entries α) (key : Value) : Bool :=
  es.any fun e => e.1.keyEqual key

/-- Set the value of a key. -/
def insert (es : Entries α) (key : Value) (x : α) : Entries α :=
  match es with
  | [] => [(key, x)]
  | e :: es => if e.1.keyEqual key then (e.1, x) :: es else e :: insert es key x

/-- Insert entries one after the other. -/
def ofList (es : List (Value × α)) : Entries α :=
  es.foldl (fun acc e => insert acc e.1 e.2) []

/-- The keys in order. -/
def keys (es : Entries α) : List Value :=
  es.map Prod.fst

end Entries

namespace Value

/-- A dictionary of entries, an equal key overwriting the value of an earlier one. -/
def dictOf (entries : List (Value × Value)) : Value :=
  dict (Entries.ofList entries)

/-- A set of items, without repetitions. -/
def setOf (items : List Value) : Value :=
  set (items.foldl (fun acc v => if acc.any (·.keyEqual v) then acc else acc ++ [v]) [])

end Value

end PlotStream
