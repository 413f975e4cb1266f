import HouseStyle.Proofs.Syntax.Expressions
import HouseStyle.Syntax.Statement
import Mathlib.Data.List.Perm.Subperm
import Mathlib.Data.List.Forall2

/-!
# Where the classes of a tree come from

Every class of a tree is what the class statement reads at some place of the lexemes: where a statement
may start, at a `class`. Different classes come from different places. Both are shown together, by an
invariant that goes along with the parsers of statements: the classes read so far are matched with
places, and those places and the ones still ahead are all different.

Main definitions:
* `Grammar.AtStart`: a statement may start here.
* `Grammar.IsClassAt`: the class that stands at a place.
* `Grammar.Reading`, `Grammar.Fresh`: the invariant, inside a line and at its start.
* `Parser.Turns`: a parser that takes lexemes from one property to another.

Main results:
* `Grammar.IsSound.classStatement`, `Grammar.IsSound.statement` and others: the forms of statements.
* `Node.exists_classStarts`: the classes of a source.
-/

namespace HouseStyle.Syntax

open HouseStyle.Syntax.Parser HouseStyle.Syntax.Node

/-! ## Places of classes -/

/-- The keyword of a class. -/
def Lexeme.isClass (l : Lexeme) : Bool := l.cls = .keyword && l.text = "class".toList

/-- The suffixes that start with `class`. -/
def classStarts : List Lexeme → List (List Lexeme)
  | [] => []
  | l :: ls => if l.isClass then (l :: ls) :: classStarts ls else classStarts ls

theorem classStarts_sublist {ls rest : List Lexeme} (h : rest <:+ ls) :
    (classStarts rest).Sublist (classStarts ls) := by
  induction ls with
  | nil => rw [List.suffix_nil.mp h]
  | cons l ls ih =>
    rcases List.suffix_cons_iff.mp h with rfl | h
    · exact .refl _
    · rw [classStarts]
      split_ifs
      · exact (ih h).cons _
      · exact ih h

theorem exists_of_mem_classStarts {ls start : List Lexeme} (h : start ∈ classStarts ls) :
    start <:+ ls ∧ ∃ l rest, start = l :: rest ∧ l.isClass := by
  induction ls with
  | nil => simp [classStarts] at h
  | cons l ls ih =>
    have hrest : start ∈ classStarts ls → start <:+ l :: ls ∧ ∃ l rest, start = l :: rest ∧ l.isClass :=
      fun h => ⟨(ih h).1.trans (List.suffix_cons l ls), (ih h).2⟩
    rw [classStarts] at h
    split_ifs at h with hl
    · rcases List.mem_cons.mp h with rfl | h
      · exact ⟨List.suffix_rfl, l, ls, rfl, hl⟩
      · exact hrest h
    · exact hrest h

namespace Grammar

/-- A statement may start here: at the start of the source, or behind the end of a line or a change of
    indentation. -/
def AtStart (all ls : List Lexeme) : Prop := ls = all ∨ ∃ l, l.isLayout ∧ l :: ls <:+ all

/-- The class statement reads this class here, where a statement may start. -/
structure IsClassAt (all ls : List Lexeme) (n : Node) : Prop where
  suffix : ls <:+ all
  atStart : AtStart all ls
  reads : ∃ height decorators rest, (floor height).classStatement decorators ls = some (n, rest)

/-- The classes read so far stand at places that are different from each other and from those ahead. -/
structure Reading (all : List Lexeme) (found : List Node) (ls : List Lexeme) : Prop where
  suffix : ls <:+ all
  matched : ∃ starts, List.Forall₂ (IsClassAt all) starts found ∧
    List.Subperm (starts ++ classStarts ls) (classStarts all)

/-- The same, where a statement may start. -/
structure Fresh (all : List Lexeme) (found : List Node) (ls : List Lexeme) : Prop
    extends Reading all found ls where
  atStart : AtStart all ls

variable {all : List Lexeme} {found : List Node}

theorem Reading.of_suffix {ls rest : List Lexeme} (h : Reading all found ls) (hrest : rest <:+ ls) :
    Reading all found rest where
  suffix := hrest.trans h.suffix
  matched := by
    obtain ⟨starts, hstarts, hsub⟩ := h.matched
    exact ⟨starts, hstarts, ((classStarts_sublist hrest).append_left starts).subperm.trans hsub⟩

theorem Reading.fresh {l : Lexeme} {ls : List Lexeme} (h : Reading all found (l :: ls))
    (hl : l.isLayout) : Fresh all found ls where
  toReading := h.of_suffix (List.suffix_cons l ls)
  atStart := .inr ⟨l, hl, h.suffix⟩

/-- The place of a class is taken once its keyword is read. -/
theorem Fresh.read_class {l : Lexeme} {ls : List Lexeme} {n : Node} (h : Fresh all found (l :: ls))
    (hl : l.isClass) (hn : IsClassAt all (l :: ls) n) : Reading all (found ++ [n]) ls where
  suffix := (List.suffix_cons l ls).trans h.suffix
  matched := by
    obtain ⟨starts, hstarts, hsub⟩ := h.matched
    rw [classStarts, if_pos hl] at hsub
    refine ⟨starts ++ [l :: ls], List.rel_append hstarts (.cons hn .nil), ?_⟩
    rwa [List.append_assoc]

end Grammar

/-! ## Parsers with an invariant -/

namespace Parser

variable {α β : Type} {P P' : List Lexeme → Prop} {Q Q' : α → List Lexeme → Prop}
  {R : β → List Lexeme → Prop}

/-- From lexemes with the first property, the parser gives a result and leaves lexemes with the second
    one. -/
def Turns (P : List Lexeme → Prop) (Q : α → List Lexeme → Prop) (p : Parser α) : Prop :=
  ∀ ⦃ls a rest⦄, P ls → p ls = some (a, rest) → Q a rest

namespace Turns

theorem pure {a : α} (h : ∀ ls, P ls → Q a ls) : Turns P Q (pure a) := by
  intro ls b rest hP hp
  obtain ⟨rfl, rfl⟩ := pure_eq_some.mp hp
  exact h _ hP

theorem failure : Turns P Q (failure : Parser α) := fun _ _ _ _ h => nomatch h

theorem bind {p : Parser α} {f : α → Parser β} (hp : Turns P Q p) (hf : ∀ a, Turns (Q a) R (f a)) :
    Turns P R (p >>= f) := by
  intro ls b rest hP h
  obtain ⟨a, mid, ha, hb⟩ := bind_eq_some.mp h
  exact hf a (hp hP ha) hb

theorem ite {c : Prop} [Decidable c] {p q : Parser α} (hp : Turns P Q p) (hq : Turns P Q q) :
    Turns P Q (if c then p else q) := by
  split_ifs
  exacts [hp, hq]

/-- One of two parts, before the rest is read. -/
theorem fork {c : Prop} [Decidable c] {p q : Parser α} {f : α → Parser β} (hp : Turns P Q p)
    (hq : Turns P Q q) (hf : ∀ a, Turns (Q a) R (f a)) :
    Turns P R (if c then p >>= f else q >>= f) := .ite (.bind hp hf) (.bind hq hf)

theorem orElse {p q : Parser α} (hp : Turns P Q p) (hq : Turns P Q q) : Turns P Q (p <|> q) :=
  fun _ _ _ hP h => (orElse_eq_some h).elim (fun h => hp hP h) fun h => hq hP h

theorem imp {p : Parser α} (h : Turns P Q p) (hP : ∀ ls, P' ls → P ls)
    (hQ : ∀ a ls, Q a ls → Q' a ls) : Turns P' Q' p :=
  fun _ _ _ hP' hp => hQ _ _ (h (hP _ hP') hp)

theorem peek : Turns P (fun _ => P) peek := by
  intro ls l rest hP h
  cases ls with
  | nil => cases h
  | cons _ _ => cases h; exact hP

theorem atKeyword {text : Text} : Turns P (fun _ => P) (atKeyword text) := by
  intro ls b rest hP h
  cases ls <;> cases h <;> exact hP

theorem guard {c : Prop} [Decidable c] : Turns P (fun _ => P) (guard c : Parser Unit) := by
  intro ls u rest hP h
  obtain ⟨-, rfl⟩ := guard_eq_some.mp h
  exact hP

/-- What is known of a result before the rest is read. -/
theorem given {S : Prop} {p : Parser α} (h : S → Turns P Q p) : Turns (fun ls => S ∧ P ls) Q p :=
  fun _ _ _ hP hrun => h hP.1 hP.2 hrun

end Turns

end Parser

/-! ## Statements -/

namespace Parser.Turns

open Grammar

variable {α β : Type} {all : List Lexeme} {found : List Node} {R : β → List Lexeme → Prop}

/-- What is read inside a line changes nothing. -/
theorem skip {S : α → Prop} {p : Parser α} {f : α → Parser β} (hp : Gives S p)
    (hf : ∀ a, S a → Turns (Reading all found) R (f a)) : Turns (Reading all found) R (p >>= f) := by
  intro ls b rest h hrun
  obtain ⟨a, mid, ha, hb⟩ := bind_eq_some.mp hrun
  obtain ⟨hmid, hS⟩ := hp ha
  exact hf a hS (h.of_suffix hmid.suffix) hb

/-- What may be read inside a line may be read at its start. -/
theorem atStart {Q : α → List Lexeme → Prop} {p : Parser α} (h : Turns (Reading all found) Q p) :
    Turns (Fresh all found) Q p := fun _ _ _ hP hrun => h hP.toReading hrun

/-- One node or none, before the rest is read. -/
theorem skipItem {c : Prop} [Decidable c] {p : Parser Node} {f : List Node → Parser β}
    (hp : Gives Node.IsPlain p) (hf : ∀ ns, ArePlain ns → Turns (Reading all found) R (f ns)) :
    Turns (Reading all found) R
      (if c then p >>= fun n => Pure.pure [n] >>= f else Pure.pure [] >>= f) :=
  .ite (.skip hp fun _ hn => .skip (.pure (arePlain_cons.mpr ⟨hn, arePlain_nil⟩)) hf)
    (.skip (.pure arePlain_nil) hf)

theorem ofLayout {cls : LexemeClass} (hcls : cls = .newline ∨ cls = .indent ∨ cls = .dedent) :
    Turns (Reading all found) (fun _ => Fresh all found) (ofClass cls) := by
  intro ls l rest h hrun
  cases ls with
  | nil => cases hrun
  | cons l ls =>
    rw [ofClass] at hrun
    split_ifs at hrun with hl
    cases hrun
    refine h.fresh ?_
    rw [beq_iff_eq] at hl
    simpa [Lexeme.isLayout, hl, or_assoc] using hcls

theorem lineEnd : Turns (Reading all found) (fun _ => Fresh all found) lineEnd :=
  .bind (.ofLayout (.inl rfl)) fun _ => .pure fun _ h => h

/-- Behind a keyword the line goes on; else a statement may start. -/
theorem keywordIf {text : Text} : Turns (Fresh all found)
    (fun b ls => if b then Reading all found ls else Fresh all found ls) (keywordIf text) := by
  intro ls b rest h hrun
  cases ls with
  | nil => cases hrun; exact h
  | cons l ls =>
    rw [Parser.keywordIf, take?] at hrun
    split_ifs at hrun <;> cases hrun
    · exact h.of_suffix (List.suffix_cons l _)
    · exact h

/-- Repetitions of a part with blocks, each of which has a property. -/
theorem many {S : α → Prop} (nodes : α → List Node) {p : Parser α}
    (hp : ∀ found, Turns (Fresh all found)
      (fun a ls => S a ∧ Fresh all (found ++ classesOf (nodes a)) ls) p) :
    ∀ (fuel : Nat) (found : List Node), Turns (Fresh all found)
      (fun xs ls => (∀ x ∈ xs, S x) ∧ Fresh all (found ++ classesOf (xs.flatMap nodes)) ls)
      (many p fuel)
  | 0, found => .pure (by simp)
  | fuel + 1, found => by
    refine .orElse (.bind (hp found) fun x => .given fun hx => ?_) (.pure (by simp))
    refine .bind (many nodes hp fuel _) fun xs => .given fun hxs => .pure fun ls h => ?_
    exact ⟨List.forall_mem_cons.mpr ⟨hx, hxs⟩, by simpa using h⟩

theorem many1 {S : α → Prop} (nodes : α → List Node) {p : Parser α}
    (hp : ∀ found, Turns (Fresh all found)
      (fun a ls => S a ∧ Fresh all (found ++ classesOf (nodes a)) ls) p) (fuel : Nat) :
    Turns (Fresh all found)
      (fun xs ls => (∀ x ∈ xs, S x) ∧ Fresh all (found ++ classesOf (xs.flatMap nodes)) ls)
      (many1 p fuel) := by
  refine .bind (hp found) fun x => .given fun hx => ?_
  refine .bind (many nodes hp fuel _) fun xs => .given fun hxs => .pure fun ls h => ?_
  exact ⟨List.forall_mem_cons.mpr ⟨hx, hxs⟩, by simpa using h⟩

end Parser.Turns

namespace Grammar

/-- A floor on which expressions are plain, and statements go from one start to the next with their
    classes found. -/
structure IsSound (g : Grammar) : Prop where
  isPlain : g.IsPlain
  isFloor : ∃ height, g = floor height
  statements : ∀ all found, Turns (Fresh all found) (fun ns => Fresh all (found ++ classesOf ns))
    g.statements

namespace IsSound

variable {g : Grammar} (hg : g.IsSound) {all : List Lexeme} {found : List Node}
include hg

theorem simpleLine :
    Turns (Reading all found) (fun ns => Fresh all (found ++ classesOf ns)) g.simpleLine := by
  have hplain := hg.isPlain.simpleStatement
  refine .skip hplain fun first hfirst => ?_
  refine .skip (.many (.bind .op fun _ _ => hplain) _) fun others hothers => ?_
  refine .skip .opIf fun _ _ => .bind .lineEnd fun _ => .pure fun ls h => ?_
  have hnone : classesOf (first :: others) = [] :=
    ArePlain.classesOf_eq_nil (arePlain_cons.mpr ⟨hfirst, hothers⟩)
  rwa [hnone, List.append_nil]

theorem block : Turns (Reading all found) (fun ns => Fresh all (found ++ classesOf ns)) g.block := by
  refine .skip .op fun _ _ => .bind .peek fun _ => .ite ?_ hg.simpleLine
  refine .bind .lineEnd fun _ => .bind (.atStart (.ofLayout (.inr (.inl rfl)))) fun _ => ?_
  refine .bind (hg.statements all found) fun body => ?_
  exact .bind (.atStart (.ofLayout (.inr (.inr rfl)))) fun _ => .pure fun _ h => h

theorem elseBlock :
    Turns (Fresh all found) (fun ns => Fresh all (found ++ classesOf ns)) g.elseBlock := by
  refine .bind .keywordIf fun b => ?_
  cases b with
  | false => exact .pure fun ls h => by simpa using h
  | true => exact hg.block

theorem conditionBlock (word : Text) : Turns (Reading all found)
    (fun c ls => c.2.1.IsPlain ∧ Fresh all (found ++ classesOf c.2.2) ls) (g.conditionBlock word) :=
  .skip .keyword fun _ _ => .skip hg.isPlain.named fun _ htest => .bind hg.block fun _ =>
    .pure fun _ h => ⟨htest, h⟩

omit hg in
/-- The `elif` parts are nested in each other, and their classes are in order. -/
theorem classesOf_foldr_branch {further : List (Position × Node × List Node)}
    (h : ∀ c ∈ further, c.2.1.IsPlain) (last : List Node) :
    classesOf (further.foldr (fun c orelse => [.branch c.1 c.2.1 c.2.2 orelse]) last) =
      classesOf (further.flatMap (·.2.2)) ++ classesOf last := by
  induction further with
  | nil => rfl
  | cons c further ih =>
    obtain ⟨hc, hfurther⟩ := List.forall_mem_cons.mp h
    simp [hc.classes_eq_nil, ih hfurther]

theorem ifStatement :
    Turns (Reading all found) (fun n => Fresh all (found ++ n.classes)) g.ifStatement := by
  have helif : ∀ found, Turns (Fresh all found)
      (fun c ls => c.2.1.IsPlain ∧ Fresh all (found ++ classesOf c.2.2) ls)
      (g.conditionBlock "elif") :=
    fun found => .atStart (hg.conditionBlock _)
  refine .bind (hg.conditionBlock _) fun (pos, test, body) => .given fun htest => ?_
  refine .bind (.many (·.2.2) helif _ _) fun further => .given fun hfurther => ?_
  refine .bind hg.elseBlock fun last => .pure fun ls h => ?_
  have hfold := classesOf_foldr_branch hfurther last
  rw [classes_branch, htest.classes_eq_nil, List.nil_append]
  simpa [hfold] using h

theorem whileStatement :
    Turns (Reading all found) (fun n => Fresh all (found ++ n.classes)) g.whileStatement := by
  refine .bind (hg.conditionBlock _) fun (pos, test, body) => .given fun htest => ?_
  refine .bind hg.elseBlock fun orelse => .pure fun ls h => ?_
  simpa [htest.classes_eq_nil] using h

theorem forStatement (kind : LoopKind) :
    Turns (Reading all found) (fun n => Fresh all (found ++ n.classes)) (g.forStatement kind) := by
  refine .skip .keyword fun _ _ => .skip hg.isPlain.targets fun target htarget => ?_
  refine .skip .keyword fun _ _ => .skip hg.isPlain.expressions fun iter hiter => ?_
  refine .bind hg.block fun body => .bind hg.elseBlock fun orelse => .pure fun ls h => ?_
  simpa [htarget.classes_eq_nil, hiter.classes_eq_nil] using h

omit hg in
theorem withItem (hg : g.IsPlain) : Gives Node.IsPlain g.withItem := by
  refine .bind hg.expression fun context hcontext => .bind .keywordIf fun _ _ => .ite ?_ ?_
  · exact .bind hg.target fun _ htarget => .pure (by simp [hcontext, htarget])
  · exact .pure (by simpa using hcontext)

omit hg in
theorem parenthesizedItems (hg : g.IsPlain) : Gives Node.ArePlain g.parenthesizedItems := by
  refine .bind .op fun _ _ => .bind (withItem hg) fun first hfirst => .bind .opIf fun _ _ => ?_
  refine .ifItems (.commaItems (withItem hg) _) fun others hothers => .bind .op fun _ _ => ?_
  exact .bind .atOp fun _ _ => .bind .guard fun _ _ => .pure (arePlain_cons.mpr ⟨hfirst, hothers⟩)

theorem withStatement (kind : Kind) :
    Turns (Reading all found) (fun n => Fresh all (found ++ n.classes)) (g.withStatement kind) := by
  refine .skip .keyword fun _ _ => ?_
  refine .skip (.orElse (parenthesizedItems hg.isPlain) (.sepByComma (withItem hg.isPlain) _))
    fun items hitems => .bind hg.block fun body => .pure fun ls h => ?_
  simpa [ArePlain.classesOf_eq_nil hitems] using h

theorem exceptClause (star : Bool) :
    Turns (Reading all found) (fun n => Fresh all (found ++ n.classes)) (g.exceptClause star) := by
  have htail : Turns (Reading all found) (fun n => Fresh all (found ++ classes n)) (do
      if !star && (← atOp ":") then return handler [] (← g.block)
      else
        let type ← g.expression
        if ← keywordIf "as" then let _ ← ident
        return handler [type] (← g.block)) := by
    refine .skip .atOp fun _ _ =>
      .ite (.bind hg.block fun body => .pure fun ls h => by simpa using h) ?_
    refine .skip hg.isPlain.expression fun type htype => .skip .keywordIf fun _ _ => ?_
    have hblock : Turns (Reading all found) (fun n => Fresh all (found ++ classes n))
        (do return handler [type] (← g.block)) :=
      .bind hg.block fun body => .pure fun ls h => by simpa [htype.classes_eq_nil] using h
    exact .ite (.skip .ident fun _ _ => hblock) hblock
  exact .skip .keyword fun _ _ => .ite (.skip .op fun _ _ => htail) htail

theorem exceptClauses (star : Bool) (fuel : Nat) : Turns (Fresh all found)
    (fun ns => Fresh all (found ++ classesOf ns)) (many (g.exceptClause star) fuel) := by
  refine .imp (.many (S := fun _ => True) (fun n => [n]) (fun found => ?_) fuel found)
    (fun _ h => h) fun ns ls h => by simpa using h.2
  exact .imp (.atStart (hg.exceptClause star)) (fun _ h => h) fun n ls h =>
    ⟨trivial, by simpa using h⟩

theorem tryStatement :
    Turns (Reading all found) (fun n => Fresh all (found ++ n.classes)) g.tryStatement := by
  have hnone : ∀ found, Turns (Fresh all found) (fun ns => Fresh all (found ++ classesOf ns))
      (pure []) := fun found => .pure fun ls h => by simpa using h
  refine .skip .keyword fun _ _ => .bind hg.block fun body => ?_
  refine .bind (hg.exceptClauses false _) fun plainClauses => ?_
  refine .fork (hg.exceptClauses true _) (hnone _) fun starClauses => ?_
  refine .fork (hnone _) hg.elseBlock fun orelse => ?_
  refine .bind .atKeyword fun _ => .bind .guard fun _ => .bind .keywordIf fun b => ?_
  cases b with
  | false => exact .bind (hnone _) fun final => .pure fun ls h => by simpa using h
  | true => exact .bind hg.block fun final => .pure fun ls h => by simpa using h

theorem functionStatement (isAsync : Bool) (start : Option Position) {decorators : List Node}
    (hdecorators : Node.ArePlain decorators) : Turns (Reading all found)
      (fun n => Fresh all (found ++ n.classes)) (g.functionStatement isAsync start decorators) := by
  refine .skip .keyword fun _ _ => .skip .ident fun _ _ => .skip .op fun _ _ => ?_
  refine .skip (hg.isPlain.parameters _ _) fun args hargs => ?_
  refine .skip .op fun _ _ => .skip .opIf fun _ _ => ?_
  refine .skipItem hg.isPlain.expression fun returns hreturns => ?_
  refine .bind hg.block fun body => .pure fun ls h => ?_
  simpa [hargs.classes_eq_nil, hreturns.classesOf_eq_nil, hdecorators.classesOf_eq_nil] using h

/-- The place of a class is taken by its keyword, before the classes of its body are read. -/
theorem classStatement {decorators : List Node} (hdecorators : Node.ArePlain decorators) :
    Turns (Fresh all found) (fun n => Fresh all (found ++ n.classes))
      (g.classStatement decorators) := by
  intro ls n rest h hrun
  have hat : IsClassAt all ls n := by
    obtain ⟨height, rfl⟩ := hg.isFloor
    exact ⟨h.suffix, h.atStart, height, decorators, rest, hrun⟩
  obtain ⟨l, mid, hl, htail⟩ := bind_eq_some.mp hrun
  obtain ⟨hclass, rfl⟩ := exactly_eq_some.mp hl
  have hread : Reading all (found ++ [n]) mid :=
    h.read_class (by simpa [Lexeme.isClass] using hclass) hat
  have hbody : ∀ (name : Text) (bases keywords : List Node), ArePlain bases → ArePlain keywords →
      Turns (Reading all (found ++ [n])) (fun m ls => m = n → Fresh all (found ++ n.classes) ls)
        (do return .classDef name l.pos bases keywords (← g.block) decorators) := by
    intro name bases keywords hbases hkeywords
    refine .bind hg.block fun body => .pure fun ls h hn => ?_
    rw [← hn] at h ⊢
    simpa [hbases.classesOf_eq_nil, hkeywords.classesOf_eq_nil, hdecorators.classesOf_eq_nil] using h
  refine Turns.skip (R := fun m ls => m = n → Fresh all (found ++ n.classes) ls) .ident
    (fun name _ => .skip .opIf fun _ _ => .ite ?_ ?_) hread htail rfl
  · refine .skip (hg.isPlain.arguments _) fun r hr => .skip .op fun _ _ => ?_
    exact hbody name r.1 r.2 hr.1 hr.2
  · exact hbody name [] [] arePlain_nil arePlain_nil

theorem asyncStatement :
    Turns (Reading all found) (fun n => Fresh all (found ++ n.classes)) g.asyncStatement :=
  .skip .keyword fun _ _ => .skip .atKeyword fun _ _ => .ite (hg.functionStatement _ _ arePlain_nil)
    (.skip .atKeyword fun _ _ => .ite (hg.withStatement _) (hg.forStatement _))

theorem decoratedStatement :
    Turns (Fresh all found) (fun n => Fresh all (found ++ n.classes)) g.decoratedStatement := by
  have hdecorator : ∀ found, Turns (Fresh all found)
      (fun d ls => d.IsPlain ∧ Fresh all (found ++ classesOf []) ls) (do
        let _ ← op "@"
        let d ← g.named
        Grammar.lineEnd
        return d) := by
    intro found
    refine .atStart (.skip .op fun _ _ => .skip hg.isPlain.named fun d hd => ?_)
    exact .bind .lineEnd fun _ => .pure fun ls h => ⟨hd, by simpa using h⟩
  refine .bind (.many1 (fun _ => []) hdecorator _) fun decorators => .given fun hdecorators => ?_
  have hnone : decorators.flatMap (fun _ : Node => ([] : List Node)) = [] := by simp
  rw [hnone, classesOf_nil, List.append_nil]
  refine .bind .atKeyword fun _ => .ite (hg.classStatement hdecorators) ?_
  refine .atStart (.skip .atKeyword fun _ _ => .ite ?_ (hg.functionStatement _ _ hdecorators))
  exact .skip .keyword fun _ _ => hg.functionStatement _ _ hdecorators

theorem caseBlock :
    Turns (Reading all found) (fun n => Fresh all (found ++ n.classes)) g.caseBlock := by
  refine .skip IsPlain.softKeyword fun _ _ => .skip hg.isPlain.casePattern fun pattern hpattern => ?_
  refine .skip .keywordIf fun _ _ => .skipItem hg.isPlain.named fun condition hcondition => ?_
  refine .bind hg.block fun body => .pure fun ls h => ?_
  simpa [hpattern.classes_eq_nil, hcondition.classesOf_eq_nil] using h

theorem matchStatement :
    Turns (Reading all found) (fun n => Fresh all (found ++ n.classes)) g.matchStatement := by
  have hcase : ∀ found, Turns (Fresh all found)
      (fun n ls => True ∧ Fresh all (found ++ classesOf [n]) ls) g.caseBlock :=
    fun found => .imp (.atStart hg.caseBlock) (fun _ h => h) fun n ls h => ⟨trivial, by simpa using h⟩
  refine .skip IsPlain.softKeyword fun _ _ => ?_
  refine .skip (IsPlain.itemOrTuple hg.isPlain.displayItem) fun subject hsubject => ?_
  refine .skip .guard fun _ _ => .skip .op fun _ _ => .bind .lineEnd fun _ => ?_
  refine .bind (.atStart (.ofLayout (.inr (.inl rfl)))) fun _ => ?_
  refine .bind (.many1 (fun n => [n]) hcase _) fun cases => .given fun _ => ?_
  refine .bind (.atStart (.ofLayout (.inr (.inr rfl)))) fun _ => .pure fun ls h => ?_
  simpa [hsubject.classes_eq_nil] using h

theorem statement :
    Turns (Fresh all found) (fun ns => Fresh all (found ++ classesOf ns)) g.statement := by
  have hone : ∀ {p : Parser Node} {P : List Lexeme → Prop},
      Turns P (fun n => Fresh all (found ++ n.classes)) p →
      Turns P (fun ns => Fresh all (found ++ classesOf ns)) (do return [← p]) :=
    fun hp => .bind hp fun n => .pure fun ls h => by simpa using h
  have hline : ∀ {p : Parser Node},
      Turns (Reading all found) (fun n => Fresh all (found ++ n.classes)) p →
      Turns (Fresh all found) (fun ns => Fresh all (found ++ classesOf ns)) (do return [← p]) :=
    fun hp => .atStart (hone hp)
  have hsimple : Turns (Fresh all found) (fun ns => Fresh all (found ++ classesOf ns)) g.simpleLine :=
    .atStart hg.simpleLine
  refine .bind .peek fun _ => .ite (.orElse (hline hg.matchStatement) hsimple) ?_
  refine .ite (hone hg.decoratedStatement) (.ite hsimple ?_)
  refine .ite (hline hg.ifStatement) (.ite (hline (hg.functionStatement _ _ arePlain_nil)) ?_)
  refine .ite (hone (hg.classStatement arePlain_nil)) (.ite (hline (hg.forStatement _)) ?_)
  refine .ite (hline hg.whileStatement) (.ite (hline (hg.withStatement _)) ?_)
  exact .ite (hline hg.tryStatement) (.ite (hline hg.asyncStatement) hsimple)

theorem statementsBody :
    Turns (Fresh all found) (fun ns => Fresh all (found ++ classesOf ns)) g.statementsBody := by
  have hstatement : ∀ found, Turns (Fresh all found)
      (fun ns ls => True ∧ Fresh all (found ++ classesOf ns) ls) g.statement :=
    fun found => .imp hg.statement (fun _ h => h) fun _ _ h => ⟨trivial, h⟩
  refine .bind (.many1 id hstatement _) fun nss => .given fun _ => .pure fun ls h => ?_
  simpa using h

theorem above : g.above.IsSound where
  isPlain := hg.isPlain.above
  isFloor := by
    obtain ⟨height, rfl⟩ := hg.isFloor
    exact ⟨height + 1, rfl⟩
  statements := fun _ _ => hg.statementsBody

end IsSound

theorem isSound_floor : ∀ height, (floor height).IsSound
  | 0 => ⟨⟨.failure, .failure, .failure, .failure, .failure, .failure, .failure⟩, ⟨0, rfl⟩,
      fun _ _ => .failure⟩
  | height + 1 => (isSound_floor height).above

end Grammar

/-! ## Sources -/

/-- The classes of a source are what class statements read at different places of its lexemes. -/
theorem Node.exists_classStarts {text : Text} {tree : Node} (h : ofText? text = some tree) :
    ∃ lexemes starts, Lexeme.ofText? text = some lexemes ∧
      List.Forall₂ (Grammar.IsClassAt lexemes) starts tree.classes ∧
      List.Subperm starts (classStarts lexemes) := by
  simp only [ofText?, Option.bind_eq_bind, Option.bind_eq_some_iff] at h
  obtain ⟨lexemes, hlexemes, ⟨n, rest⟩, hrun, hn⟩ := h
  cases hn
  have hsound := Grammar.isSound_floor (2 * text.unifyNewlines.length + 8)
  have hstart : Grammar.Fresh lexemes [] lexemes := ⟨⟨List.suffix_rfl, [], .nil, .refl _⟩, .inl rfl⟩
  have hfile : Turns (Grammar.Fresh lexemes []) (fun n => Grammar.Reading lexemes n.classes)
      (Grammar.floor (2 * text.unifyNewlines.length + 8)).file := by
    refine .bind .peek fun _ => .fork (Q := fun ns => Grammar.Fresh lexemes ([] ++ classesOf ns))
      (.pure fun _ h => h) (hsound.statements lexemes []) fun body => ?_
    exact .atStart (.skip (.ofClass (by decide)) fun _ _ => .pure fun ls h => by simpa using h)
  obtain ⟨starts, hstarts, hsub⟩ := (hfile hstart hrun).matched
  exact ⟨lexemes, starts, hlexemes, hstarts, (List.sublist_append_left _ _).subperm.trans hsub⟩

end HouseStyle.Syntax
