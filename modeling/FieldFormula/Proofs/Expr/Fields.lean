import FieldFormula.Expr.FieldNames
import FieldFormula.Proofs.Expr.Reading

/-!
# The fields of what is read

Reading an expression loses no field and moves none: separators, parentheses without a role
and arguments without parts hold no fields, and all other parts stay in the order of their
tokens.

* `pairwise_lt_sortedNames` and `mem_sortedNames`: the same names in strictly increasing order.
* `Reading.fields_step` and `Reaches.fields_eq`: the fields of a reading are those of the
  tokens that lead to it.
* `fields_eq_filterMap`: an expression has the fields of its tokens.
-/

namespace FieldFormula

/-! ### Names in order -/

/-- Names in order are in strict order when each is kept once. -/
theorem pairwise_lt_eraseDups {names : List String} (h : names.Pairwise (· ≤ ·)) :
  names.eraseDups.Pairwise (· < ·)
  := by
  match names with
  | [] => simp
  | a :: names =>
    obtain ⟨ha, hnames⟩ := List.pairwise_cons.mp h
    rw [List.eraseDups_cons, List.pairwise_cons]
    constructor
    · intro b hb
      rw [List.mem_eraseDups, List.mem_filter] at hb
      apply Std.lt_of_le_of_ne (ha b hb.1)
      rintro rfl
      simp at hb
    · apply pairwise_lt_eraseDups (hnames.filter _)
termination_by names.length
decreasing_by
  have := List.length_filter_le (fun b => !b == a) names
  simp only [List.length_cons]
  omega

theorem pairwise_lt_sortedNames (names : List String) :
  (sortedNames names).Pairwise (· < ·)
  := by
  apply pairwise_lt_eraseDups
  have htrans : ∀ a b c : String, decide (a ≤ b) → decide (b ≤ c) → decide (a ≤ c) := by
    simpa using fun a b c => String.le_trans
  have htotal : ∀ a b : String, decide (a ≤ b) || decide (b ≤ a) := by
    simpa using String.le_total
  simpa using List.pairwise_mergeSort htrans htotal names

theorem mem_sortedNames {name : String} {names : List String} :
  name ∈ sortedNames names ↔ name ∈ names
  := by
  rw [sortedNames, List.mem_eraseDups, List.mem_mergeSort]

namespace Expr

/-! ### Fields of several expressions -/

theorem fieldsOfAll_append (es fs : List Expr) :
  fieldsOfAll (es ++ fs) = fieldsOfAll es ++ fieldsOfAll fs
  := by
  induction es with
  | nil => rfl
  | cons e es ih => rw [List.cons_append, fieldsOfAll, fieldsOfAll, ih, List.append_assoc]

theorem fieldsOfAll_singleton (e : Expr) :
  fieldsOfAll [e] = e.fields
  := List.append_nil e.fields

theorem fields_ofParts (es : List Expr) :
  (ofParts es).fields = fieldsOfAll es
  := by
  match es with
  | [] => rfl
  | [e] => rw [ofParts, fieldsOfAll_singleton]
  | e :: f :: es => rfl

namespace Frame

/-- The fields in an open call. -/
def fields (f : Frame) : List String :=
  fieldsOfAll f.args ++ fieldsOfAll f.parts

theorem fieldsOfAll_allArgs (f : Frame) :
  fieldsOfAll f.allArgs = f.fields
  := by
  obtain ⟨name, args, parts, parens⟩ := f
  cases parts with
  | nil => simp [allArgs_of_nil, fields, fieldsOfAll]
  | cons e es =>
    rw [allArgs_of_ne_nil name args (by simp), fieldsOfAll_append, fieldsOfAll_singleton, fields_ofParts]
    rfl

theorem fields_addPart (f : Frame) (e : Expr) :
  (f.addPart e).fields = f.fields ++ e.fields
  := by
  simp only [fields, addPart, fieldsOfAll_append, fieldsOfAll_singleton, List.append_assoc]

theorem fields_endArg (f : Frame) :
  f.endArg.fields = f.fields
  := by
  rw [fields, endArg, fieldsOfAll_allArgs]
  apply List.append_nil

end Frame

namespace Reading

/-- The fields in open calls, where the outermost call stands last. -/
def framesFields : List Frame → List String
  | [] => []
  | f :: fs => framesFields fs ++ f.fields

/-- The fields of what has been read. -/
def fields (p : Reading) : List String :=
  fieldsOfAll p.nodes ++ framesFields p.frames

theorem fields_add (p : Reading) (e : Expr) :
  (p.add e).fields = p.fields ++ e.fields
  := by
  obtain ⟨frames, nodes⟩ := p
  cases frames with
  | nil => simp [add, fields, framesFields, fieldsOfAll_append, fieldsOfAll_singleton]
  | cons f fs => simp only [add, fields, framesFields, Frame.fields_addPart, List.append_assoc]

theorem fields_part (t : Token) :
  (part t).fields = t.fieldName?.toList
  := by
  cases t <;> rfl

/-- A call that closes keeps its fields. -/
theorem fields_close (f : Frame) (fs : List Frame) (nodes : List Expr) :
  (Reading.add ⟨fs, nodes⟩ f.close).fields = fields ⟨f :: fs, nodes⟩
  := by
  have hclose : f.close.fields = fieldsOfAll f.allArgs := rfl
  rw [fields_add, hclose, Frame.fieldsOfAll_allArgs, fields, fields, framesFields,
    List.append_assoc]

theorem fields_step_of_none (p : Reading) {t : Token} (ht : t.fieldName? = none) :
  (p.step t).fields = p.fields
  := by
  obtain ⟨frames, nodes⟩ := p
  obtain hpart | ⟨f, fs, rfl, ⟨n, hparens⟩ | hclose | hend⟩ := step_cases ⟨frames, nodes⟩ t
  · rw [hpart, fields_add, fields_part, ht]
    apply List.append_nil
  · rw [hparens, fields_add]
    apply List.append_nil
  · rw [hclose, fields_close]
  · rw [hend, fields, fields, framesFields, framesFields, Frame.fields_endArg]

/-- A step adds the field of its token, if the token is one. -/
theorem fields_step (p : Reading) (t : Token) :
  (p.step t).fields = p.fields ++ t.fieldName?.toList
  := by
  cases t with
  | field name => apply fields_add
  | _ =>
    rw [fields_step_of_none p rfl]
    symm
    apply List.append_nil

/-- Tokens add their fields. -/
theorem Reaches.fields_eq {p q : Reading} {ts : List Token} (h : Reaches p ts q) :
  q.fields = p.fields ++ ts.filterMap Token.fieldName?
  := by
  induction h with
  | nil p => rw [List.filterMap_nil, List.append_nil]
  | @call p q ts name _ ih =>
    have hopen : (p.openCall name).fields = p.fields := by
      simp [openCall, fields, framesFields, Frame.start, Frame.fields, fieldsOfAll]
    rw [ih, hopen]
    rfl
  | token t _ _ ih =>
    rw [ih, fields_step, List.append_assoc]
    cases hname : t.fieldName? with
    | none => rw [List.filterMap_cons_none hname, Option.toList_none, List.nil_append]
    | some name => rw [List.filterMap_cons_some hname, Option.toList_some, List.singleton_append]

end Reading

/-- The fields of an expression are those of the tokens that form it, in the same order and
as often. -/
theorem fields_eq_filterMap {ts : List Token} {e : Expr} (h : ofTokens ts = .ok e) :
  e.fields = ts.filterMap Token.fieldName?
  := by
  obtain ⟨q, hq, hframes, rfl⟩ := (ofTokens_eq_ok_iff _ _).mp h
  have hfields := hq.fields_eq
  rw [Reading.fields, hframes, Reading.framesFields, List.append_nil] at hfields
  rw [fields_ofParts, hfields]
  rfl

/-- The fields of an expression are those of its tokens.  So the names of the fields, each
once and in order, are the same for a source and for the expression that it writes. -/
theorem fieldNames_ofSource :
  (∀ ts e, ofTokens ts = .ok e → e.fields = ts.filterMap Token.fieldName?)
    ∧ ∀ source e, ofSource source = .ok e →
      Token.fieldNames (Token.ofSource source) = e.fieldNames
        ∧ e.fieldNames.Pairwise (· < ·) ∧ ∀ name, name ∈ e.fieldNames ↔ name ∈ e.fields
  := by
  constructor
  · intro ts e he
    apply fields_eq_filterMap he
  · intro source e he
    constructor
    · rw [Token.fieldNames, ← fields_eq_filterMap he]
      rfl
    · use pairwise_lt_sortedNames e.fields
      intro name
      apply mem_sortedNames

/-- Separators without a role, an argument without parts and a comment are read past. -/
theorem fieldNames_ofSource_separators :
  [.field "B", .semicolon, .function "IF", .leftParen, .field "A", .comma, .comma, .leftParen,
      .field "B", .rightParen, .rightParen].filterMap Token.fieldName? = ["B", "A", "B"]
    ∧ ∃ e, ofSource "[[B]]; =IF([[A]],, ([[B]])) // [[C]]" = .ok e
      ∧ Token.fieldNames (Token.ofSource "[[B]]; =IF([[A]],, ([[B]])) // [[C]]") = e.fieldNames
  := by
  have hok : (ofSource "[[B]]; =IF([[A]],, ([[B]])) // [[C]]").isOk = true := by decide +kernel
  obtain ⟨htokens, hsource⟩ := fieldNames_ofSource
  constructor
  · symm
    apply htokens _ (.concat [.field "B", empty, .call "IF" [.field "A",
      .concat [empty, .field "B", empty]]]) (by rw [ofTokens_eq_run]; rfl)
  · cases he : ofSource "[[B]]; =IF([[A]],, ([[B]])) // [[C]]" with
    | error err =>
      rw [he] at hok
      contradiction
    | ok e => exact ⟨e, rfl, (hsource _ e he).1⟩

end Expr

end FieldFormula
