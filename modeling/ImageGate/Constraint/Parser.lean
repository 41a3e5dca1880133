import ImageGate.Constraint.Basic
import ImageGate.Constraint.Requirement
import ImageGate.Text.Blank

/-!
# Reading constraints

Alternatives are separated by `||`, the tokens of an alternative by commas and white space. Tokens
are read as items from left to right:

* a token made of operator characters alone belongs to the token that follows it,
* `a - b`, with the dash a token of its own, is an inclusive range,
* `!=` excludes a version, and any other operator requires something of it.

Items are written the way image tags are constrained: a version without an operator is an exact
match, `==` means `=`, `=>` means `>=`, `=<` means `<=`, and a version may carry a leading `v`.
-/

namespace ImageGate.Constraint

open Text Version

/-- Why a text is not a constraint. -/
inductive Fault where
  /-- An alternative without a single token; its text, trimmed. -/
  | emptyAlternative (text : List Char)
  /-- An operator at the end of an alternative. -/
  | danglingOperator (operator : List Char)
  /-- A range at the end of an alternative, without its upper bound. -/
  | openRange (lower : List Char)
  /-- A bound of a range begins with an operator. -/
  | badRange (lower upper : List Char)
  /-- A version or an operator is ill-formed. -/
  | comparator (fault : Version.Fault)
deriving DecidableEq, Repr

/-- A token of an alternative: no comma, no white space, not empty. -/
abbrev Token := List Char

def isOperatorChar (c : Char) : Bool :=
  c == '=' || c == '<' || c == '>' || c == '!' || c == '~' || c == '^'

def startsWithOperator (cs : List Char) : Bool :=
  cs.head?.any isOperatorChar

/-! ## Items -/

/-- What an item contributes to its alternative. -/
inductive Item where
  /-- Comparators, as requirements write them. -/
  | required (texts : List (List Char))
  | excluded (requirement : Requirement)

/-- A version with a wildcard among its dot-separated pieces. -/
def hasWildcard (version : List Char) : Bool :=
  (pieces (· == '.') version).any fun
    | [c] => isWildcard c
    | _ => false

/-- The item that a comparator token stands for. -/
def itemOf (token : Token) : Except Fault Item :=
  let operator := token.takeWhile isOperatorChar
  let version := dropV (token.dropWhile isOperatorChar)
  match operator with
  | ['!', '='] =>
    match Requirement.ofTexts ['=' :: version] with
    | .ok r => .ok (.excluded r)
    | .error e => .error (.comparator e)
  | [] => .ok (.required [if hasWildcard version then version else '=' :: version])
  | ['=', '='] => .ok (.required ['=' :: version])
  | ['=', '>'] => .ok (.required ['>' :: '=' :: version])
  | ['=', '<'] => .ok (.required ['<' :: '=' :: version])
  | operator => .ok (.required [operator ++ version])

/-- The item that the range from `lower` to `upper` stands for. -/
def itemOfRange (lower upper : Token) : Except Fault Item :=
  if startsWithOperator lower || startsWithOperator upper then .error (.badRange lower upper)
  else .ok (.required ['>' :: '=' :: dropV lower, '<' :: '=' :: dropV upper])

/-- The token `t`, glued to the next one when it is a bare operator, and the tokens behind. -/
def glue (t : Token) (ts : List Token) : Except Fault (Token × List Token) :=
  if t.all isOperatorChar then
    match ts with
    | [] => .error (.danglingOperator t)
    | v :: ts => .ok (t ++ v, ts)
  else .ok (t, ts)

/-- The first item of the tokens `t :: ts`, and the tokens behind it. -/
def takeItem (t : Token) (ts : List Token) : Except Fault (Item × List Token) := do
  let (token, rest) ← glue t ts
  match rest with
  | ['-'] :: upper :: rest => return (← itemOfRange token upper, rest)
  | [['-']] => throw (.openRange token)
  | rest => return (← itemOf token, rest)

theorem length_le_of_glue {t v : Token} {ts rest : List Token} (h : glue t ts = .ok (v, rest)) :
    rest.length ≤ ts.length := by
  unfold glue at h
  split at h
  · split at h
    · simp at h
    · simp only [Except.ok.injEq, Prod.mk.injEq] at h
      simp [← h.2]
  · simp only [Except.ok.injEq, Prod.mk.injEq] at h
    simp [← h.2]

theorem length_le_of_takeItem {t : Token} {ts rest : List Token} {item : Item}
    (h : takeItem t ts = .ok (item, rest)) : rest.length ≤ ts.length := by
  unfold takeItem at h
  match hg : glue t ts with
  | .error e => simp [hg, bind, Except.bind] at h
  | .ok (v, behind) =>
    have hle := length_le_of_glue hg
    simp only [hg, bind, Except.bind] at h
    split at h
    · split at h
      · simp at h
      · simp only [pure, Except.pure, Except.ok.injEq, Prod.mk.injEq] at h
        simp only [List.length_cons] at hle
        rw [← h.2]
        omega
    · simp [throw, throwThe, MonadExceptOf.throw] at h
    · split at h
      · simp at h
      · simp only [pure, Except.pure, Except.ok.injEq, Prod.mk.injEq] at h
        exact h.2 ▸ hle

def readItems (tokens : List Token) : Except Fault (List Item) :=
  match tokens with
  | [] => .ok []
  | t :: ts =>
    match h : takeItem t ts with
    | .error e => .error e
    | .ok (item, rest) =>
      have := length_le_of_takeItem h
      (readItems rest).map (item :: ·)
termination_by tokens.length
decreasing_by simp; omega

/-! ## Alternatives and constraints -/

def tokens (cs : List Char) : List Token :=
  (pieces (fun c => c == ',' || isBlank c) cs).filter (!·.isEmpty)

def requiredTexts (items : List Item) : List (List Char) :=
  items.flatMap fun
    | .required texts => texts
    | .excluded _ => []

def exclusions (items : List Item) : List Requirement :=
  items.filterMap fun
    | .required _ => none
    | .excluded r => some r

def readAlternative (cs : List Char) : Except Fault Alternative := do
  if (tokens cs).isEmpty then throw (.emptyAlternative (trimBoth isBlank cs))
  let items ← readItems (tokens cs)
  let required ← (Requirement.ofTexts (requiredTexts items)).mapError .comparator
  return { required, excluded := exclusions items }

def ofChars (cs : List Char) : Except Fault Constraint :=
  ((piecesAt '|' '|' cs).mapM readAlternative).map (⟨·⟩)

def parse (s : String) : Except Fault Constraint :=
  ofChars s.toList

end ImageGate.Constraint
