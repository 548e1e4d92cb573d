import FieldFormula.Proofs.Expr.Reading

/-!
# Printing expressions

`Expr.print` writes an expression as tokens, with a semicolon between two arguments.  An
expression is canonical if no sequence in it has a single part, no argument in it is an
empty sequence, and the parts of every sequence are no sequences themselves.

* `reaches_print`: the printed form of an atom leads to the reading with the atom added.
* `Reaches.isCanonical`: all that is read is canonical.
* `isCanonical_iff_ofTokens_print`: printing and reading are inverse on canonical expressions,
  and these are what reading gives.
-/

namespace FieldFormula.Expr

/-! ### Canonical expressions -/

mutual

/-- An expression that is no sequence, with canonical arguments. -/
inductive IsAtom : Expr → Prop
  | literal (v : Value) : IsAtom (.literal v)
  | field (name : String) : IsAtom (.field name)
  | call (name : String) {args : List Expr} (h : ∀ a ∈ args, IsArgument a) :
      IsAtom (.call name args)

/-- An atom, or a sequence of at least two atoms. -/
inductive IsArgument : Expr → Prop
  | atom {e : Expr} (h : IsAtom e) : IsArgument e
  | concat {parts : List Expr} (two : 2 ≤ parts.length) (h : ∀ e ∈ parts, IsAtom e) :
      IsArgument (.concat parts)

end

theorem IsArgument.atom_or_concat {a : Expr} (ha : IsArgument a) :
  IsAtom a ∨ ∃ parts, a = .concat parts ∧ 2 ≤ parts.length ∧ ∀ e ∈ parts, IsAtom e
  := by
  cases ha with
  | atom h => exact .inl h
  | concat two h => exact .inr ⟨_, rfl, two, h⟩

/-- An atom, or a sequence of no atoms or of at least two. -/
inductive IsCanonical : Expr → Prop
  | atom {e : Expr} (h : IsAtom e) : IsCanonical e
  | concat {parts : List Expr} (one : parts.length ≠ 1) (h : ∀ e ∈ parts, IsAtom e) :
      IsCanonical (.concat parts)

/-! ### Tokens of an expression -/

mutual

/-- The tokens that write an expression. -/
def print : Expr → List Token
  | .literal (.text s) => [.quoted s]
  | .literal (.number n) => [.number n]
  | .field name => [.field name]
  | .call name args => .function name :: .leftParen :: (printArgs args ++ [.rightParen])
  | .concat parts => printAll parts

/-- The tokens that write several expressions one after the other. -/
def printAll : List Expr → List Token
  | [] => []
  | e :: es => print e ++ printAll es

/-- The tokens that write arguments, with a semicolon between two of them. -/
def printArgs : List Expr → List Token
  | [] => []
  | [a] => print a
  | a :: b :: es => print a ++ .semicolon :: printArgs (b :: es)

end

/-! ### What is printed is read -/

theorem ofParts_of_length_ne_one {es : List Expr} (h : es.length ≠ 1) :
  ofParts es = .concat es
  := by
  match es with
  | [] => rfl
  | [e] => simp at h
  | e :: f :: es => rfl

namespace Reading

/-- Several parts in the innermost open call, or outside all calls. -/
def addAll (p : Reading) (es : List Expr) : Reading :=
  es.foldl add p

theorem addAll_frame (f : Frame) (fs : List Frame) (nodes es : List Expr) :
  addAll ⟨f :: fs, nodes⟩ es = ⟨{ f with parts := f.parts ++ es } :: fs, nodes⟩
  := by
  induction es generalizing f with
  | nil => simp [addAll]
  | cons e es ih =>
    have hcons : addAll ⟨f :: fs, nodes⟩ (e :: es) = addAll ⟨f.addPart e :: fs, nodes⟩ es := rfl
    rw [hcons, ih]
    simp [Frame.addPart]

theorem addAll_nodes (nodes es : List Expr) :
  addAll ⟨[], nodes⟩ es = ⟨[], nodes ++ es⟩
  := by
  induction es generalizing nodes with
  | nil => simp [addAll]
  | cons e es ih =>
    have hcons : addAll ⟨[], nodes⟩ (e :: es) = addAll ⟨[], nodes ++ [e]⟩ es := rfl
    rw [hcons, ih]
    simp

/-- A closing parenthesis that nothing opened within a call closes the call. -/
theorem step_rightParen {f : Frame} (hf : f.parens = 0) (fs : List Frame) (nodes : List Expr) :
  step ⟨f :: fs, nodes⟩ .rightParen = Reading.add ⟨fs, nodes⟩ f.close
  := if_pos hf

/-- A semicolon outside the parentheses within a call ends the argument. -/
theorem step_semicolon {f : Frame} (hf : f.parens = 0) (fs : List Frame) (nodes : List Expr) :
  step ⟨f :: fs, nodes⟩ .semicolon = ⟨f.endArg :: fs, nodes⟩
  := if_pos hf

/-- So does a comma. -/
theorem step_comma {f : Frame} (hf : f.parens = 0) (fs : List Frame) (nodes : List Expr) :
  step ⟨f :: fs, nodes⟩ .comma = ⟨f.endArg :: fs, nodes⟩
  := if_pos hf

mutual

/-- The printed form of an atom leads to the reading with the atom added. -/
theorem reaches_print (e : Expr) (he : IsAtom e) (p : Reading) :
  Reaches p (print e) (p.add e)
  := by
  match e with
  | .literal (.text s) => apply Reaches.single p (by simp)
  | .literal (.number n) => apply Reaches.single p (by simp)
  | .field name => apply Reaches.single p (by simp)
  | .concat parts => cases he
  | .call name args =>
    cases he with
    | call _ hargs =>
      obtain ⟨f, rfl, hparens, hall, hread⟩ :=
        reaches_printArgs args hargs name [] p.frames p.nodes
      have hclose : f.close = .call f.name args := by
        rw [Frame.close, hall, List.nil_append]
      have hright := Reaches.single ⟨f :: p.frames, p.nodes⟩ (t := .rightParen) (by simp)
      rw [step_rightParen hparens, hclose] at hright
      apply Reaches.call
      apply Reaches.append hread hright

/-- The printed forms of atoms lead to the reading with the atoms added. -/
theorem reaches_printAll (es : List Expr) (hes : ∀ e ∈ es, IsAtom e) (p : Reading) :
  Reaches p (printAll es) (p.addAll es)
  := by
  match es with
  | [] => apply Reaches.nil
  | e :: es =>
    simp only [List.forall_mem_cons] at hes
    apply Reaches.append (reaches_print e hes.1 p)
    apply reaches_printAll es hes.2

/-- The printed form of an argument leads to the reading with its parts added. -/
theorem exists_reaches_argument (a : Expr) (ha : IsArgument a) :
  ∃ parts, parts ≠ [] ∧ ofParts parts = a ∧ ∀ p, Reaches p (print a) (p.addAll parts)
  := by
  obtain hatom | ⟨parts, rfl, two, hparts⟩ := ha.atom_or_concat
  · use [a], by simp, rfl
    apply reaches_print a hatom
  · use parts
    constructor
    · rintro rfl
      simp at two
    · use ofParts_of_length_ne_one (by omega)
      apply reaches_printAll parts hparts

/-- Within a call, the printed form of arguments leads to a reading in which they are the
further arguments of the call. -/
theorem reaches_printArgs
    (args : List Expr) (hargs : ∀ a ∈ args, IsArgument a) (name : String) (done : List Expr)
    (fs : List Frame) (nodes : List Expr) :
  ∃ f : Frame, f.name = name ∧ f.parens = 0 ∧ f.allArgs = done ++ args
    ∧ Reaches ⟨⟨name, done, [], 0⟩ :: fs, nodes⟩ (printArgs args) ⟨f :: fs, nodes⟩
  := by
  match args with
  | [] =>
    use ⟨name, done, [], 0⟩, rfl, rfl, by rw [Frame.allArgs_of_nil, List.append_nil]
    apply Reaches.nil
  | [a] =>
    simp only [List.forall_mem_cons] at hargs
    obtain ⟨parts, hne, rfl, hread⟩ := exists_reaches_argument a hargs.1
    use ⟨name, done, parts, 0⟩, rfl, rfl, Frame.allArgs_of_ne_nil name done hne 0
    have hparts := hread ⟨⟨name, done, [], 0⟩ :: fs, nodes⟩
    rw [addAll_frame, List.nil_append] at hparts
    apply hparts
  | a :: b :: es =>
    rw [List.forall_mem_cons] at hargs
    obtain ⟨parts, hne, rfl, hread⟩ := exists_reaches_argument a hargs.1
    have hparts := hread ⟨⟨name, done, [], 0⟩ :: fs, nodes⟩
    rw [addAll_frame, List.nil_append] at hparts
    have hend := Reaches.single ⟨⟨name, done, parts, 0⟩ :: fs, nodes⟩ (t := .semicolon) (by simp)
    rw [step_semicolon rfl, Frame.endArg, Frame.allArgs_of_ne_nil name done hne] at hend
    obtain ⟨f, hname, hparens, hall, hrest⟩ :=
      reaches_printArgs (b :: es) hargs.2 name (done ++ [ofParts parts]) fs nodes
    use f, hname, hparens
    constructor
    · rw [hall, List.append_assoc]
      rfl
    · apply Reaches.append hparts
      apply Reaches.append hend hrest

end

end Reading

/-! ### What is read is canonical -/

/-- A parts list that is not empty makes an argument of its atoms. -/
theorem isArgument_ofParts {es : List Expr} (hne : es ≠ []) (hes : ∀ e ∈ es, IsAtom e) :
  IsArgument (ofParts es)
  := by
  match es with
  | [] => contradiction
  | [e] =>
    apply IsArgument.atom
    apply hes e List.mem_cons_self
  | e :: f :: es =>
    apply IsArgument.concat
    · simp
    · apply hes

/-- An open call with canonical arguments, in whose current argument all parts are atoms. -/
structure Frame.IsCanonical (f : Frame) : Prop where
  args : ∀ a ∈ f.args, IsArgument a
  parts : ∀ e ∈ f.parts, IsAtom e

theorem Frame.IsCanonical.start (name : String) :
  (Frame.start name).IsCanonical
  := by
  constructor <;> simp [Frame.start]

theorem Frame.IsCanonical.addPart
    {f : Frame} (hf : f.IsCanonical) {e : Expr} (he : IsAtom e) :
  (f.addPart e).IsCanonical
  := by
  use hf.args
  simp only [Frame.addPart, List.mem_append, List.mem_singleton]
  rintro e' (he' | rfl)
  · apply hf.parts e' he'
  · apply he

theorem Frame.IsCanonical.allArgs {f : Frame} (hf : f.IsCanonical) :
  ∀ a ∈ f.allArgs, IsArgument a
  := by
  obtain ⟨name, args, parts, parens⟩ := f
  by_cases hparts : parts = []
  · subst hparts
    apply hf.args
  · rw [Frame.allArgs_of_ne_nil name args hparts]
    simp only [List.mem_append, List.mem_singleton]
    rintro a (ha | rfl)
    · apply hf.args a ha
    · apply isArgument_ofParts hparts hf.parts

namespace Reading

/-- A reading with canonical open calls, in which all parts outside them are atoms. -/
structure IsCanonical (p : Reading) : Prop where
  frames : ∀ f ∈ p.frames, f.IsCanonical
  nodes : ∀ e ∈ p.nodes, IsAtom e

theorem IsCanonical.add {p : Reading} (hp : p.IsCanonical) {e : Expr} (he : IsAtom e) :
  (p.add e).IsCanonical
  := by
  obtain ⟨frames, nodes⟩ := p
  obtain ⟨hframes, hnodes⟩ := hp
  cases frames with
  | nil =>
    use hframes
    simp only [Reading.add, List.mem_append, List.mem_singleton]
    rintro e' (he' | rfl)
    · apply hnodes e' he'
    · apply he
  | cons f fs =>
    rw [List.forall_mem_cons] at hframes
    constructor
    · apply List.forall_mem_cons.mpr ⟨hframes.1.addPart he, hframes.2⟩
    · apply hnodes

theorem IsCanonical.openCall {p : Reading} (hp : p.IsCanonical) (name : String) :
  (p.openCall name).IsCanonical
  := by
  constructor
  · apply List.forall_mem_cons.mpr ⟨Frame.IsCanonical.start name, hp.frames⟩
  · apply hp.nodes

theorem isAtom_part (t : Token) :
  IsAtom (part t)
  := by
  cases t <;> constructor

/-- A step leads from a canonical reading to a canonical one. -/
theorem IsCanonical.step {p : Reading} (hp : p.IsCanonical) (t : Token) :
  (p.step t).IsCanonical
  := by
  obtain ⟨frames, nodes⟩ := p
  obtain hpart | ⟨f, fs, rfl, hcall⟩ := step_cases ⟨frames, nodes⟩ t
  · rw [hpart]
    apply hp.add (isAtom_part t)
  · have ⟨hf, hfs⟩ := List.forall_mem_cons.mp hp.frames
    obtain ⟨n, hparens⟩ | hclose | hend := hcall
    · have hp' : IsCanonical ⟨{ f with parens := n } :: fs, nodes⟩ :=
        ⟨List.forall_mem_cons.mpr ⟨⟨hf.args, hf.parts⟩, hfs⟩, hp.nodes⟩
      rw [hparens]
      apply hp'.add (.literal _)
    · have hp' : IsCanonical ⟨fs, nodes⟩ := ⟨hfs, hp.nodes⟩
      rw [hclose]
      apply hp'.add (.call _ hf.allArgs)
    · rw [hend]
      have hf' : f.endArg.IsCanonical := ⟨hf.allArgs, by simp [Frame.endArg]⟩
      use List.forall_mem_cons.mpr ⟨hf', hfs⟩
      apply hp.nodes

/-- Tokens lead from a canonical reading to a canonical one. -/
theorem Reaches.isCanonical
    {p q : Reading} {ts : List Token} (h : Reaches p ts q) (hp : p.IsCanonical) :
  q.IsCanonical
  := by
  induction h with
  | nil p => apply hp
  | call name _ ih => apply ih (hp.openCall name)
  | token t _ _ ih => apply ih (hp.step t)

theorem isCanonical_start :
  start.IsCanonical
  := by
  constructor <;> simp [start]

end Reading

/-! ### Printing and reading are inverse -/

theorem isCanonical_ofParts {es : List Expr} (hes : ∀ e ∈ es, IsAtom e) :
  IsCanonical (ofParts es)
  := by
  match es with
  | [] => exact .concat (by simp) hes
  | [e] => exact .atom (hes e List.mem_cons_self)
  | e :: f :: es => exact .concat (by simp) hes

/-- The tokens that write a canonical expression are read as that expression. -/
theorem ofTokens_print {e : Expr} (he : IsCanonical e) :
  ofTokens (print e) = .ok e
  := by
  cases he with
  | atom h =>
    rw [ofTokens_eq_run, (Reading.reaches_print e h .start).run]
    rfl
  | concat one h =>
    rw [ofTokens_eq_run, print, (Reading.reaches_printAll _ h .start).run, Reading.start,
      Reading.addAll_nodes, Reading.finish, List.nil_append]
    apply congrArg Except.ok
    apply ofParts_of_length_ne_one one

/-- An expression that tokens form is canonical. -/
theorem isCanonical_of_ofTokens {ts : List Token} {e : Expr} (h : ofTokens ts = .ok e) :
  IsCanonical e
  := by
  obtain ⟨q, hq, -, rfl⟩ := (ofTokens_eq_ok_iff _ _).mp h
  apply isCanonical_ofParts (hq.isCanonical Reading.isCanonical_start).nodes

/-- The canonical expressions are those that are read back from the tokens that write them,
and all expressions that tokens form are canonical. -/
theorem isCanonical_iff_ofTokens_print (e : Expr) :
  (IsCanonical e ↔ ofTokens (print e) = .ok e) ∧ ∀ ts, ofTokens ts = .ok e → IsCanonical e
  := by
  constructor
  · constructor
    · apply ofTokens_print
    · apply isCanonical_of_ofTokens
  · intro ts
    apply isCanonical_of_ofTokens

end FieldFormula.Expr
