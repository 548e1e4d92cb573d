import FieldFormula.Proofs.Evaluation.Replacement
import FieldFormula.Proofs.Expr.Reading

/-!
# Formulas side by side

Tokens that form a formula are read to its end without a look at the tokens behind them.  So
the tokens of two formulas, one behind the other, form a formula again, and its text is that of
the first followed by that of the second.

* `Reading.Reaches.behind`: complete parts outside all calls have no part in reading.
* `chars_evaluate_ofParts`: the text of a sequence is made of the texts of its parts, also
  where one part stands for itself.
* `toText_evaluate_append`: tokens of two formulas form one with the two texts side by side.
-/

namespace FieldFormula.Expr

/-! ### Parts in front of a reading -/

namespace Reading

/-- The reading with complete parts in front of its own. -/
def behind (es : List Expr) (p : Reading) : Reading :=
  ⟨p.frames, es ++ p.nodes⟩

theorem add_behind (es : List Expr) (p : Reading) (e : Expr) :
  (p.behind es).add e = (p.add e).behind es
  := by
  obtain ⟨frames, nodes⟩ := p
  cases frames with
  | nil => simp only [behind, add, List.append_assoc]
  | cons f fs => rfl

theorem openCall_behind (es : List Expr) (p : Reading) (name : String) :
  (p.behind es).openCall name = (p.openCall name).behind es
  := rfl

theorem step_behind (es : List Expr) (p : Reading) (t : Token) :
  (p.behind es).step t = (p.step t).behind es
  := by
  obtain ⟨frames, nodes⟩ := p
  cases frames with
  | nil => cases t <;> apply add_behind es ⟨[], nodes⟩
  | cons f fs =>
    cases t with
    | rightParen =>
      by_cases hf : f.parens = 0
      · simp only [behind, step, if_pos hf]
        apply add_behind es ⟨fs, nodes⟩
      · simp only [behind, step, if_neg hf]
        rfl
    | semicolon | comma =>
      by_cases hf : f.parens = 0
      · simp only [behind, step, if_pos hf]
      · simp only [behind, step, if_neg hf]
        rfl
    | _ => rfl

/-- Tokens lead the same way behind complete parts. -/
theorem Reaches.behind {p q : Reading} {ts : List Token} (h : Reaches p ts q) (es : List Expr) :
  Reaches (p.behind es) ts (q.behind es)
  := by
  induction h with
  | nil p => apply Reaches.nil
  | call name _ ih =>
    apply Reaches.call name
    rw [openCall_behind]
    apply ih
  | token t ht _ ih =>
    apply Reaches.token t ht
    rw [step_behind]
    apply ih

end Reading

/-! ### The text of a sequence -/

theorem chars_evaluate_ofParts (ctx : Context) (es : List Expr) :
  ((ofParts es).evaluate ctx).chars = es.flatMap fun e => (e.evaluate ctx).chars
  := by
  match es with
  | [] | _ :: _ :: _ =>
    rw [ofParts, evaluate, evaluateAll_eq_map, List.flatMap_map]
    · apply String.toList_ofList
    · simp
  | [e] => rw [ofParts, List.flatMap_singleton]

/-- The text of two sequences, one behind the other, is that of the first followed by that of
the second. -/
theorem toText_evaluate_ofParts_append (ctx : Context) (ds es : List Expr) :
  ((ofParts (ds ++ es)).evaluate ctx).toText
    = ((ofParts ds).evaluate ctx).toText ++ ((ofParts es).evaluate ctx).toText
  := by
  rw [← String.toList_inj, String.toList_append]
  have hchars := chars_evaluate_ofParts ctx
  simp only [Value.chars] at hchars
  rw [hchars, hchars, hchars, List.flatMap_append]

/-- The tokens of two formulas, one behind the other, form a formula.  Its text is that of the
first followed by that of the second, and without random numbers the draws do not matter. -/
theorem toText_evaluate_append {ts us : List Token} {d e : Expr} (hd : ofTokens ts = .ok d)
    (he : ofTokens us = .ok e) :
  ∃ f, ofTokens (ts ++ us) = .ok f
    ∧ (∀ ctx, (f.evaluate ctx).toText = (d.evaluate ctx).toText ++ (e.evaluate ctx).toText)
    ∧ ∀ r : Registry, r.HasBuiltinActions → d.AvoidsRandom r → e.AvoidsRandom r →
      ∀ (fields : Option FieldMap) (draw draw' draw'' : Float),
        (f.evaluate ⟨r, fields, draw⟩).toText
          = (d.evaluate ⟨r, fields, draw'⟩).toText ++ (e.evaluate ⟨r, fields, draw''⟩).toText
  := by
  obtain ⟨⟨_, ds⟩, hts, rfl, rfl⟩ := (ofTokens_eq_ok_iff _ _).mp hd
  obtain ⟨⟨_, es⟩, hus, rfl, rfl⟩ := (ofTokens_eq_ok_iff _ _).mp he
  -- the second formula is read behind the parts of the first
  have hrest : Reading.Reaches ⟨[], ds⟩ us ⟨[], ds ++ es⟩ := by
    have h := hus.behind ds
    rwa [Reading.behind, Reading.start, List.append_nil] at h
  use ofParts (ds ++ es)
  refine ⟨?_, ?_, ?_⟩
  · apply (ofTokens_eq_ok_iff _ _).mpr
    use ⟨[], ds ++ es⟩, hts.append hrest
  · intro ctx
    apply toText_evaluate_ofParts_append
  · intro r hr hdr her fields draw draw' draw''
    rw [evaluate_draw hr hdr fields draw' draw, evaluate_draw hr her fields draw'' draw]
    apply toText_evaluate_ofParts_append

/-- A number, which stands for itself, in front of the call of a function and an operator. -/
theorem toText_evaluate_append_number :
  let ts : List Token := [.number 1]
  let us : List Token :=
    [.function "UPPERCASE", .leftParen, .field "A", .rightParen, .operator '+']
  let e : Expr := .concat [.call "UPPERCASE" [.field "A"], .literal (.text "+")]
  ∃ f, ofTokens (ts ++ us) = .ok f
    ∧ (∀ ctx, (f.evaluate ctx).toText
      = ((literal (.number 1)).evaluate ctx).toText ++ (e.evaluate ctx).toText)
    ∧ (f.evaluate ⟨.builtin, some [("A", "x")], 0.25⟩).toText
      = ((literal (.number 1)).evaluate ⟨.builtin, some [("A", "x")], 0.5⟩).toText
        ++ (e.evaluate ⟨.builtin, some [("A", "x")], 0.75⟩).toText
  := by
  intro ts us e
  have hts : ofTokens ts = .ok (.literal (.number 1)) := ofTokens_eq_run ts
  have hus : ofTokens us = .ok e := ofTokens_eq_run us
  obtain ⟨f, hf, htext, hdraw⟩ := toText_evaluate_append hts hus
  use f, hf, htext
  apply hdraw .builtin Registry.hasBuiltinActions_builtin
  · apply avoidsRandom_builtin
    decide +kernel
  · apply avoidsRandom_builtin
    decide +kernel

end FieldFormula.Expr
