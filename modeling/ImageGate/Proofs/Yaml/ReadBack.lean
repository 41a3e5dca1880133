import ImageGate.Yaml.Writer
import ImageGate.Record.Document

/-!
# What is written and what is read

A record reads back (`ReadsBack`) if the text that is written for it is read as the node that stands
for it. Whether a text does can be computed, since nodes can be compared.

Looked at as a value of a kind, the node of a value is what was written: a text as this text, a flag
as this flag, a list item by item.
-/

namespace ImageGate.Yaml

/-! ## Nodes are compared -/

mutual

/-- Two nodes are the same node or not. -/
def Node.decEq : (a b : Node) → Decidable (a = b)
  | .scalar tag style text, .scalar tag' style' text' =>
    decidable_of_iff (tag = tag' ∧ style = style' ∧ text = text') (by simp)
  | .seq tag items, .seq tag' items' =>
    match Node.decEqItems items items' with
    | .isTrue h => decidable_of_iff (tag = tag') (by simp [h])
    | .isFalse h => .isFalse (by simp [h])
  | .map tag entries, .map tag' entries' =>
    match Node.decEqEntries entries entries' with
    | .isTrue h => decidable_of_iff (tag = tag') (by simp [h])
    | .isFalse h => .isFalse (by simp [h])
  | .broken, .broken => .isTrue rfl
  | .scalar .., .seq .. | .scalar .., .map .. | .scalar .., .broken => .isFalse nofun
  | .seq .., .scalar .. | .seq .., .map .. | .seq .., .broken => .isFalse nofun
  | .map .., .scalar .. | .map .., .seq .. | .map .., .broken => .isFalse nofun
  | .broken, .scalar .. | .broken, .seq .. | .broken, .map .. => .isFalse nofun

/-- Two lists of nodes are the same list or not. -/
def Node.decEqItems : (a b : List Node) → Decidable (a = b)
  | [], [] => .isTrue rfl
  | [], _ :: _ | _ :: _, [] => .isFalse nofun
  | x :: xs, y :: ys =>
    match Node.decEq x y, Node.decEqItems xs ys with
    | .isTrue h, .isTrue h' => .isTrue (by rw [h, h'])
    | .isFalse h, _ => .isFalse (by simp [h])
    | _, .isFalse h => .isFalse (by simp [h])

/-- Two lists of entries are the same list or not. -/
def Node.decEqEntries : (a b : List (Node × Node)) → Decidable (a = b)
  | [], [] => .isTrue rfl
  | [], _ :: _ | _ :: _, [] => .isFalse nofun
  | (k, v) :: xs, (k', v') :: ys =>
    match Node.decEq k k', Node.decEq v v', Node.decEqEntries xs ys with
    | .isTrue h, .isTrue h', .isTrue h'' => .isTrue (by rw [h, h', h''])
    | .isFalse h, _, _ => .isFalse (by simp [h])
    | _, .isFalse h, _ => .isFalse (by simp [h])
    | _, _, .isFalse h => .isFalse (by simp [h])

end

instance : DecidableEq Node :=
  Node.decEq

instance : DecidableEq Document := fun a b =>
  decidable_of_iff (a.root = b.root ∧ a.complete = b.complete) (by cases a; cases b; simp)

/-! ## Records that read back -/

/-- The text that is written for a record is read as this record. -/
def ReadsBack (fields : List (String × Value)) : Prop :=
  read (writeDocument fields).toList =
    { root := some (Value.record fields).toNode, complete := true }

instance (fields : List (String × Value)) : Decidable (ReadsBack fields) :=
  inferInstanceAs (Decidable (_ = _))

variable {β : Type} {readNode : Node → Except ShapeFault β}

theorem decode_writeDocument {fields : List (String × Value)} (h : ReadsBack fields) :
    decode readNode (writeDocument fields) = readNode (Value.record fields).toNode := by
  unfold decode
  rw [h]
  exact bind_pure _

theorem exists_of_decode_eq_ok {text : String} {b : β} (h : decode readNode text = .ok b) :
    ∃ n, readNode n = .ok b := by
  unfold decode at h
  cases hread : readNode ((read text.toList).root.getD .nothing) with
  | error e =>
    simp only [hread] at h
    cases h
  | ok b' =>
    simp only [hread, bind, Except.bind] at h
    split at h
    · cases h
      exact ⟨_, hread⟩
    · cases h

/-! ## Values -/

theorem text_toNode (s : String) : format.text (Value.text s).toNode = .ok s := by
  rw [Value.toNode]
  rfl

theorem flag_toNode (b : Bool) : format.flag (Value.flag b).toNode = .ok b := by
  rw [Value.toNode]
  cases b <;> rfl

theorem oneOf_toNode {names : List (String × β)} {name : String} {b : β}
    (h : names.lookup name = some b) : format.oneOf names (Value.text name).toNode = .ok b := by
  have hname : Format.insist (format.name? (Value.text name).toNode) = .ok name := by
    rw [Value.toNode]
    rfl
  simp only [Format.oneOf, hname, bind, Except.bind, h]

theorem nodes_eq_map (vs : List Value) : Value.nodes vs = vs.map Value.toNode := by
  induction vs with
  | nil => rfl
  | cons v vs ih => rw [Value.nodes, ih, List.map_cons]

theorem list_toNode (vs : List Value) :
    format.list readNode (Value.list vs).toNode = vs.mapM fun v => readNode v.toNode := by
  rw [Value.toNode, nodes_eq_map]
  exact List.mapM_map ..

theorem entries_eq_map (fields : List (String × Value)) : Value.entries fields =
    fields.map fun f => (Node.scalar none .plain f.1, f.2.toNode) := by
  induction fields with
  | nil => rfl
  | cons f fields ih => rw [Value.entries, ih, List.map_cons]

theorem fields_toNode (fields : List (String × Value)) :
    format.fields? (Value.record fields).toNode =
      some (fields.map fun f => (some f.1, f.2.toNode)) := by
  rw [Value.toNode, entries_eq_map]
  show some (List.map _ (List.map _ fields)) = _
  rw [List.map_map]
  rfl

/-- A record is a value, and a text that is neither empty nor a spelling of nothing is one. -/
theorem optional_toNode_record (fields : List (String × Value)) :
    format.optional readNode (Value.record fields).toNode =
      some <$> readNode (Value.record fields).toNode := by
  rw [Format.optional, Value.toNode]
  rfl

theorem optional_toNode_text {s : String} (hne : s.isEmpty = false) (hnull : isNull s = false) :
    format.optional readNode (Value.text s).toNode = some <$> readNode (Value.text s).toNode := by
  have hsome : format.isAbsent (Value.text s).toNode = false := by
    rw [Value.toNode]
    show isAbsent (.scalar none (styleOf s) s) = false
    cases styleOf s <;> simp [isAbsent, hne, hnull]
  rw [Format.optional, hsome]
  rfl

end ImageGate.Yaml
