import CallTargets.Text.Decimal

/-!
# JSON values

A JSON value as its text spells it: fields keep their order and may repeat, numbers keep their notation apart from
leading and trailing blanks, and a string need not denote a text, since the grammar also admits the escape of half
a surrogate pair.
-/

namespace CallTargets

namespace Json

/-- What a string literal denotes: a text, or none if it escapes half a surrogate pair. -/
abbrev Text := Option String

/-- A number literal. -/
inductive Number where
  /-- Digits only. -/
  | natural (n : Nat)
  /-- Any other literal: with a sign, a fraction or an exponent. -/
  | other (negative : Bool) (magnitude : Decimal)
  deriving DecidableEq, Repr, Inhabited

/-- Whether a number can be computed with double precision. -/
def Number.inRange : Number → Bool
  | natural n => !(Decimal.mk n 0).estimateOverflows
  | other _ d => !d.estimateOverflows

end Json

/-- A JSON value. -/
inductive Json where
  | null
  | bool (b : Bool)
  | num (n : Json.Number)
  | str (s : Json.Text)
  | arr (items : List Json)
  | obj (fields : List (Json.Text × Json))
  deriving Repr, Inhabited

namespace Json

/-- The string value of a text. -/
def ofText (s : String) : Json := .str (some s)

/-- The number value of a natural number. -/
def ofNat (n : Nat) : Json := .num (.natural n)

/-- The object with fields named by texts. -/
def ofFields (fields : List (String × Json)) : Json := .obj (fields.map fun (k, v) => (some k, v))

/-- The array of some texts. -/
def ofTexts (texts : List String) : Json := .arr (texts.map ofText)

/-- The value of something that may be missing, with `null` for nothing. -/
def ofOption {α : Type} (f : α → Json) : Option α → Json
  | some a => f a
  | none => .null

end Json

end CallTargets
