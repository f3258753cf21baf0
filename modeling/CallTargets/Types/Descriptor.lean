import CallTargets.Types.Basic

/-!
# Descriptors

A *field descriptor* is the compact text of a type: `[` for each array dimension, then the letter of a primitive type
or `L`, the class name with `/` between its parts, and `;`.  A *method descriptor* is the parameters' descriptors in
parentheses, followed by `V` or by the descriptor of the result.

Reading is strict.  When it fails, the error echoes the part of the text that was at fault: the rest of the text
at a component that is none, the beginning of a type with too many dimensions, or else the whole text.
-/

namespace CallTargets

/-- A text that is no descriptor, with the part of it that is echoed. -/
structure DescriptorError where
  /-- The echoed text. -/
  text : String
  deriving DecidableEq, Repr, Inhabited

/-- The wording of a descriptor error. -/
def DescriptorError.message (e : DescriptorError) : String := "invalid descriptor: " ++ e.text

/-- The parameters and the result of a method. -/
structure MethodType where
  /-- The parameter types in order. -/
  params : List Ty
  /-- The result type, `void` for none. -/
  result : Ty
  deriving DecidableEq, Repr, Inhabited

namespace Descriptor

/-- The greatest number of array dimensions in a descriptor. -/
def maxDimensions : Nat := 255

/-- The number of characters that are echoed of a type with too many dimensions. -/
def maxEcho : Nat := 64

/-- A class name as it is written in a descriptor. -/
def slashed (name : List Char) : List Char := name.map fun c => if c = '.' then '/' else c

/-- The dotted form of a class name in a descriptor. -/
def dotted (name : List Char) : List Char := name.map fun c => if c = '/' then '.' else c

/-- The error that echoes `text`. -/
def fault (text : List Char) : DescriptorError := ⟨String.ofList text⟩

/-- The beginning of a text, with dots if there is more of it. -/
def truncated (text : List Char) : List Char :=
  if text.length ≤ maxEcho then text else text.take maxEcho ++ ['.', '.', '.']

/-- Reads a primitive type or a class from the front of a text. -/
def readComponent (text : List Char) : Except DescriptorError (Ty × List Char) :=
  match text with
  | [] => .error (fault text)
  | 'L' :: rest =>
    match rest.takeWhile (· != ';'), rest.dropWhile (· != ';') with
    | c :: cs, _ :: after => .ok (.object (String.ofList (dotted (c :: cs))), after)
    | _, _ => .error (fault text)
  | c :: rest =>
    match Primitive.ofLetter? c with
    | some p => .ok (.prim p, rest)
    | none => .error (fault text)

/-- Reads a field descriptor from the front of a text. -/
def readField (text : List Char) : Except DescriptorError (Ty × List Char) :=
  let dims := (text.takeWhile (· == '[')).length
  if dims ≤ maxDimensions then
    (readComponent (text.dropWhile (· == '['))).map fun (t, rest) => (t.arrays dims, rest)
  else
    .error (fault (truncated text))

/-! ### Progress -/

theorem length_dropWhile_le (p : Char → Bool) (cs : List Char) :
    (cs.dropWhile p).length ≤ cs.length :=
  (List.dropWhile_sublist p).length_le

theorem readComponent_length {text rest : List Char} {t : Ty}
    (h : readComponent text = .ok (t, rest)) : rest.length < text.length := by
  unfold readComponent at h
  split at h
  · simp at h
  · rename_i cs
    split at h
    · rename_i after _ hdrop
      simp only [Except.ok.injEq, Prod.mk.injEq] at h
      have hle := length_dropWhile_le (· != ';') cs
      rw [hdrop] at hle
      simp only [List.length_cons] at hle ⊢
      rw [← h.2]
      omega
    · simp at h
  · split at h
    · simp only [Except.ok.injEq, Prod.mk.injEq] at h
      simp [h.2]
    · simp at h

theorem readField_length {text rest : List Char} {t : Ty}
    (h : readField text = .ok (t, rest)) : rest.length < text.length := by
  unfold readField at h
  simp only at h
  split at h
  · cases hc : readComponent (text.dropWhile (· == '[')) with
    | error e => simp [hc, Except.map] at h
    | ok r =>
      obtain ⟨u, after⟩ := r
      simp only [hc, Except.map, Except.ok.injEq, Prod.mk.injEq] at h
      have hlt := readComponent_length hc
      have hle := length_dropWhile_le (· == '[') text
      rw [← h.2]
      omega
  · simp at h

/-! ### Whole descriptors -/

/-- Reads field descriptors up to the closing parenthesis; `whole` is echoed if there is none. -/
def readParams (whole : List Char) (text : List Char) :
    Except DescriptorError (List Ty × List Char) :=
  match text with
  | [] => .error (fault whole)
  | ')' :: rest => .ok ([], rest)
  | c :: cs =>
    match h : readField (c :: cs) with
    | .error e => .error e
    | .ok (t, rest) =>
      have : rest.length < (c :: cs).length := readField_length h
      (readParams whole rest).map fun (ts, after) => (t :: ts, after)
termination_by text.length
decreasing_by exact this

/-- Reads the result of a method from the front of a text. -/
def readResult (whole : List Char) (text : List Char) : Except DescriptorError (Ty × List Char) :=
  match text with
  | [] => .error (fault whole)
  | 'V' :: rest => .ok (.void, rest)
  | _ => readField text

/-- The type of a field descriptor. -/
def parseField (text : String) : Except DescriptorError Ty :=
  match readField text.toList with
  | .error e => .error e
  | .ok (t, []) => .ok t
  | .ok (_, _ :: _) => .error ⟨text⟩

/-- The parameters and the result of a method descriptor. -/
def parseMethod (text : String) : Except DescriptorError MethodType :=
  match text.toList with
  | '(' :: cs =>
    match readParams text.toList cs with
    | .error e => .error e
    | .ok (params, rest) =>
      match readResult text.toList rest with
      | .error e => .error e
      | .ok (result, []) => .ok ⟨params, result⟩
      | .ok (_, _ :: _) => .error ⟨text⟩
  | _ => .error ⟨text⟩

end Descriptor

end CallTargets
