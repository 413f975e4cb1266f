import HouseStyle.Proofs.Syntax.Tree
import HouseStyle.Syntax.Parser

/-!
# What parsers give

A parser that succeeds takes lexemes from the front and gives a result. `Parser.Gives` says of all its
results that they have a property, and that what it takes stands in one line. It is carried through the
ways in which parsers are put together, so that the property of a form of the grammar is shown along its
definition.

Main definitions:
* `Parser.SameLine`: nothing but lexemes of one line is taken.
* `Parser.Gives`: results have a property, and what is left is in the same line.

Main results:
* `Parser.Gives.bind`, `Parser.Gives.orElse`, `Parser.Gives.many` and others: putting parsers together.
-/

namespace HouseStyle.Syntax

/-- Ends of lines and changes of indentation. -/
def Lexeme.isLayout (l : Lexeme) : Bool := l.cls = .newline || l.cls = .indent || l.cls = .dedent

namespace Parser

variable {α β : Type} {Q : α → Prop} {R : β → Prop}

/-- The second list is left of the first one if lexemes of one line are taken from its front. -/
def SameLine (ls rest : List Lexeme) : Prop :=
  ∃ taken, ls = taken ++ rest ∧ ∀ l ∈ taken, l.isLayout = false

theorem SameLine.refl (ls : List Lexeme) : SameLine ls ls := ⟨[], rfl, by simp⟩

theorem SameLine.trans {ls mid rest : List Lexeme} (h : SameLine ls mid) (h' : SameLine mid rest) :
    SameLine ls rest := by
  obtain ⟨taken, rfl, htaken⟩ := h
  obtain ⟨taken', rfl, htaken'⟩ := h'
  exact ⟨taken ++ taken', by simp, List.forall_mem_append.mpr ⟨htaken, htaken'⟩⟩

theorem sameLine_cons {l : Lexeme} (hl : l.cls ≠ .newline ∧ l.cls ≠ .indent ∧ l.cls ≠ .dedent)
    (ls : List Lexeme) : SameLine (l :: ls) ls := by
  refine ⟨[l], rfl, List.forall_mem_singleton.mpr ?_⟩
  simp [Lexeme.isLayout, hl]

theorem SameLine.suffix {ls rest : List Lexeme} (h : SameLine ls rest) : rest <:+ ls := by
  obtain ⟨taken, rfl, -⟩ := h
  exact List.suffix_append taken rest

/-- The results of the parser have the property, and what it leaves is in the same line. -/
def Gives (Q : α → Prop) (p : Parser α) : Prop :=
  ∀ ⦃ls a rest⦄, p ls = some (a, rest) → SameLine ls rest ∧ Q a

/-- Both parsers of a sequence, with what they give. -/
theorem bind_eq_some {p : Parser α} {f : α → Parser β} {ls rest : List Lexeme} {b : β} :
    (p >>= f) ls = some (b, rest) ↔ ∃ a mid, p ls = some (a, mid) ∧ f a mid = some (b, rest) := by
  constructor
  · intro h
    obtain ⟨⟨a, mid⟩, hp, hf⟩ := Option.bind_eq_some_iff.mp h
    exact ⟨a, mid, hp, hf⟩
  · rintro ⟨a, mid, hp, hf⟩
    exact Option.bind_eq_some_iff.mpr ⟨(a, mid), hp, hf⟩

theorem pure_eq_some {a b : α} {ls rest : List Lexeme} :
    (pure a : Parser α) ls = some (b, rest) ↔ a = b ∧ ls = rest := by
  show some (a, ls) = some (b, rest) ↔ _
  rw [Option.some.injEq, Prod.mk.injEq]

theorem orElse_eq_some {p q : Parser α} {ls rest : List Lexeme} {a : α}
    (h : (p <|> q) ls = some (a, rest)) : p ls = some (a, rest) ∨ q ls = some (a, rest) := by
  change (p ls <|> q ls) = some (a, rest) at h
  rw [Option.orElse_eq_orElse, Option.orElse_eq_or, Option.or_eq_some_iff] at h
  exact h.imp_right (·.2)

theorem guard_eq_some {c : Prop} [Decidable c] {u : Unit} {ls rest : List Lexeme} :
    (guard c : Parser Unit) ls = some (u, rest) ↔ c ∧ ls = rest := by
  by_cases hc : c
  · rw [guard, if_pos hc, pure_eq_some]
    simp [hc]
  · rw [guard, if_neg hc]
    simp only [hc, false_and, iff_false]
    exact fun h => nomatch h

theorem exactly_eq_some {cls : LexemeClass} {text : Text} {l : Lexeme} {ls rest : List Lexeme} :
    exactly cls text ls = some (l, rest) ↔ (l.cls = cls ∧ l.text = text) ∧ ls = l :: rest := by
  cases ls with
  | nil => simp [exactly]
  | cons k ks =>
    rw [exactly, List.cons.injEq]
    constructor
    · intro h
      split_ifs at h with hk
      cases h
      exact ⟨by simpa using hk, rfl, rfl⟩
    · rintro ⟨⟨hcls, htext⟩, rfl, rfl⟩
      simp [hcls, htext]

theorem ofClass_eq_some {cls : LexemeClass} {l : Lexeme} {ls rest : List Lexeme} :
    ofClass cls ls = some (l, rest) ↔ l.cls = cls ∧ ls = l :: rest := by
  cases ls with
  | nil => simp [ofClass]
  | cons k ks =>
    rw [ofClass, List.cons.injEq]
    constructor
    · intro h
      split_ifs at h with hk
      cases h
      exact ⟨by simpa using hk, rfl, rfl⟩
    · rintro ⟨hcls, rfl, rfl⟩
      simp [hcls]

namespace Gives

theorem imp {Q' : α → Prop} {p : Parser α} (h : Gives Q p) (hQ : ∀ a, Q a → Q' a) : Gives Q' p :=
  fun _ _ _ hp => ⟨(h hp).1, hQ _ (h hp).2⟩

theorem pure {a : α} (h : Q a) : Gives Q (pure a) := by
  intro ls b rest hp
  obtain ⟨rfl, rfl⟩ := pure_eq_some.mp hp
  exact ⟨.refl _, h⟩

theorem failure : Gives Q (failure : Parser α) := fun _ _ _ h => nomatch h

theorem bind {p : Parser α} {f : α → Parser β} (hp : Gives Q p) (hf : ∀ a, Q a → Gives R (f a)) :
    Gives R (p >>= f) := by
  intro ls b rest h
  obtain ⟨a, mid, ha, hb⟩ := bind_eq_some.mp h
  obtain ⟨hmid, hQ⟩ := hp ha
  obtain ⟨hrest, hR⟩ := hf a hQ hb
  exact ⟨hmid.trans hrest, hR⟩

theorem orElse {p q : Parser α} (hp : Gives Q p) (hq : Gives Q q) : Gives Q (p <|> q) :=
  fun _ _ _ h => (orElse_eq_some h).elim (fun h => hp h) fun h => hq h

theorem guard {c : Prop} [Decidable c] : Gives (fun _ => c) (guard c : Parser Unit) := by
  intro ls u rest h
  obtain ⟨hc, rfl⟩ := guard_eq_some.mp h
  exact ⟨.refl _, hc⟩

theorem ite {c : Prop} [Decidable c] {p q : Parser α} (hp : Gives Q p) (hq : Gives Q q) :
    Gives Q (if c then p else q) := by
  split_ifs
  exacts [hp, hq]

/-- What takes no lexemes. -/
theorem lift {x : Option α} (h : ∀ a, x = some a → Q a) : Gives Q (liftM x : Parser α) := by
  intro ls a rest hx
  cases x with
  | none => cases hx
  | some b =>
    obtain ⟨rfl, rfl⟩ := pure_eq_some.mp hx
    exact ⟨.refl _, h _ rfl⟩

theorem mapM {f : β → Parser α} (hf : ∀ x, Gives Q (f x)) :
    ∀ xs : List β, Gives (fun ys => ∀ y ∈ ys, Q y) (xs.mapM f)
  | [] => by
    rw [List.mapM_nil]
    exact .pure (by simp)
  | x :: xs => by
    rw [List.mapM_cons]
    exact .bind (hf x) fun _ hy => .bind (mapM hf xs) fun _ hys =>
      .pure (List.forall_mem_cons.mpr ⟨hy, hys⟩)

/-! ## Single lexemes -/

theorem peek : Gives (fun _ => True) peek := by
  intro ls l rest h
  cases ls with
  | nil => cases h
  | cons _ _ => cases h; exact ⟨.refl _, trivial⟩

theorem at? {cls : LexemeClass} {text : Text} : Gives (fun _ => True) (at? cls text) := by
  intro ls l rest h
  cases ls <;> cases h <;> exact ⟨.refl _, trivial⟩

theorem take? {cls : LexemeClass} {text : Text}
    (hcls : cls ≠ .newline ∧ cls ≠ .indent ∧ cls ≠ .dedent) :
    Gives (fun _ => True) (take? cls text) := by
  intro ls l rest h
  cases ls with
  | nil => cases h; exact ⟨.refl _, trivial⟩
  | cons l ls =>
    rw [Parser.take?] at h
    split_ifs at h with hl <;> cases h
    · obtain ⟨rfl, -⟩ : l.cls = cls ∧ l.text = text := by simpa using hl
      exact ⟨sameLine_cons hcls _, trivial⟩
    · exact ⟨.refl _, trivial⟩

theorem ofClass {cls : LexemeClass}
    (hcls : cls ≠ .newline ∧ cls ≠ .indent ∧ cls ≠ .dedent) :
    Gives (fun _ => True) (ofClass cls) := by
  intro ls l rest h
  obtain ⟨rfl, rfl⟩ := ofClass_eq_some.mp h
  exact ⟨sameLine_cons hcls _, trivial⟩

theorem exactly {cls : LexemeClass} {text : Text}
    (hcls : cls ≠ .newline ∧ cls ≠ .indent ∧ cls ≠ .dedent) :
    Gives (fun _ => True) (exactly cls text) := by
  intro ls l rest h
  obtain ⟨⟨rfl, -⟩, rfl⟩ := exactly_eq_some.mp h
  exact ⟨sameLine_cons hcls _, trivial⟩

theorem opOf {texts : List Text} : Gives (fun _ => True) (opOf texts) := by
  intro ls l rest h
  cases ls with
  | nil => cases h
  | cons l ls =>
    rw [Parser.opOf] at h
    split_ifs at h with hl
    cases h
    have hop : l.cls = .op := by
      rw [Bool.and_eq_true, beq_iff_eq] at hl
      exact hl.1
    exact ⟨sameLine_cons (by rw [hop]; decide) _, trivial⟩

theorem atNameAnd {text : Text} : Gives (fun _ => True) (atNameAnd text) := by
  intro ls b rest h
  rw [Parser.atNameAnd.eq_def] at h
  split at h <;> cases h <;> exact ⟨.refl _, trivial⟩

theorem op {text : Text} : Gives (fun _ => True) (op text) := exactly (by decide)

theorem keyword {text : Text} : Gives (fun _ => True) (keyword text) := exactly (by decide)

theorem atOp {text : Text} : Gives (fun _ => True) (atOp text) := at?

theorem atKeyword {text : Text} : Gives (fun _ => True) (atKeyword text) := at?

theorem opIf {text : Text} : Gives (fun _ => True) (opIf text) := take? (by decide)

theorem keywordIf {text : Text} : Gives (fun _ => True) (keywordIf text) := take? (by decide)

theorem ident : Gives (fun _ => True) ident := .bind (ofClass (by decide)) fun _ _ => .pure trivial

theorem atFor : Gives (fun _ => True) atFor :=
  .bind atKeyword fun _ _ => .bind atKeyword fun _ _ => .pure trivial

/-! ## Repetition -/

theorem many {p : Parser α} (hp : Gives Q p) : ∀ fuel, Gives (fun xs => ∀ x ∈ xs, Q x) (many p fuel)
  | 0 => .pure (by simp)
  | fuel + 1 => by
    refine .orElse (.bind hp fun x hx => .bind (many hp fuel) fun xs hxs => .pure ?_) (.pure (by simp))
    exact List.forall_mem_cons.mpr ⟨hx, hxs⟩

theorem many1 {p : Parser α} (hp : Gives Q p) (fuel : Nat) :
    Gives (fun xs => ∀ x ∈ xs, Q x) (many1 p fuel) :=
  .bind hp fun _ hx => .bind (many hp fuel) fun _ hxs =>
    .pure (List.forall_mem_cons.mpr ⟨hx, hxs⟩)

theorem optional {p : Parser α} (hp : Gives Q p) : Gives (fun xs => ∀ x ∈ xs, Q x) (optional p) :=
  .orElse (.bind hp fun x hx => .pure (by simpa using hx)) (.pure (by simp))

theorem commaItems {p : Parser α} (hp : Gives Q p) :
    ∀ fuel, Gives (fun xs => ∀ x ∈ xs, Q x) (commaItems p fuel)
  | 0 => .pure (by simp)
  | fuel + 1 => by
    refine .orElse (.bind hp fun x hx => .bind opIf fun _ _ => .ite ?_ ?_) (.pure (by simp))
    · exact .bind (commaItems hp fuel) fun xs hxs => .pure (List.forall_mem_cons.mpr ⟨hx, hxs⟩)
    · exact .pure (by simpa using hx)

theorem sepByComma {p : Parser α} (hp : Gives Q p) (fuel : Nat) :
    Gives (fun xs => ∀ x ∈ xs, Q x) (sepByComma p fuel) :=
  .bind hp fun _ hx => .bind (many (.bind op fun _ _ => hp) fuel) fun _ hxs =>
    .pure (List.forall_mem_cons.mpr ⟨hx, hxs⟩)

theorem leftAssoc {operators : List Text} {p : Parser Node} (hp : Gives Node.IsPlain p) (fuel : Nat) :
    Gives Node.IsPlain (leftAssoc operators p fuel) := by
  refine .bind hp fun first hfirst => .bind (many (.bind opOf fun _ _ => hp) fuel) fun others h =>
    .pure ?_
  induction others generalizing first with
  | nil => exact hfirst
  | cons n ns ih =>
    obtain ⟨hn, hns⟩ := List.forall_mem_cons.mp h
    exact ih _ (by simp [hfirst, hn]) hns

/-! ## Optional parts

A part that is there or not is read before the rest, which goes on with the nodes of the part. -/

/-- Several items or none. -/
theorem ifItems {c : Prop} [Decidable c] {p : Parser (List α)} {f : List α → Parser β}
    (hp : Gives (fun xs => ∀ x ∈ xs, Q x) p) (hf : ∀ xs, (∀ x ∈ xs, Q x) → Gives R (f xs)) :
    Gives R (if c then p >>= f else Pure.pure [] >>= f) :=
  .ite (.bind hp hf) (.bind (.pure (by simp)) hf)

/-- One node or none. -/
theorem ifItem {c : Prop} [Decidable c] {p : Parser Node} {f : List Node → Parser β}
    (hp : Gives Node.IsPlain p) (hf : ∀ ns, Node.ArePlain ns → Gives R (f ns)) :
    Gives R (if c then p >>= fun n => Pure.pure [n] >>= f else Pure.pure [] >>= f) :=
  .ite (.bind hp fun _ hn => .bind (.pure (Node.arePlain_cons.mpr ⟨hn, Node.arePlain_nil⟩)) hf)
    (.bind (.pure Node.arePlain_nil) hf)

end Gives

end Parser

end HouseStyle.Syntax
