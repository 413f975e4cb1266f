import HouseStyle.Proofs.Syntax.Indentation

/-!
# Branches and levels of indentation

The statements of a block belong to one level of indentation, and the statements of a block inside it to
a deeper one. An `elif` belongs to the level of its `if`. So if the `else` part of an `if` is one `if`,
the two are on the same level at an `elif` and on different levels otherwise. This is shown along the
grammar of statements, from the layout of the lexemes.

Main definitions:
* `Node.Paired`: the levels of an `if` and of the `if` in its `else` part.
* `Node.Stands`: a statement at a level, paired throughout.
* `Grammar.IsLeveled`: a floor on which statements stand at the level of their lexemes.

Main results:
* `Grammar.IsLeveled.block`, `Grammar.IsLeveled.ifStatement` and others: the forms of statements.
* `Node.paired_of_ofText?`: all branches of a source.
-/

namespace HouseStyle.Syntax

open HouseStyle.Syntax.Parser HouseStyle.Syntax.Lexeme

/-! ## Trees -/

namespace Node

variable (source : Text)

/-- If the `else` part of an `if` is one `if`, that is an `elif` on the same level or an `if` on a deeper
    one. -/
def Paired : Node → Prop
  | .branch pos _ _ [.branch pos' _ _ _] =>
    ∃ level word, Begins source level word pos ∧
      (Begins source level "elif" pos' ∨ ∃ deeper, level.alt < deeper.alt ∧ Begins source deeper "if" pos')
  | _ => True

/-- All nodes of the tree are paired. -/
def IsSound (n : Node) : Prop := ∀ m ∈ n.preorder, m.Paired source

/-- All trees are sound. -/
def AreSound (ns : List Node) : Prop := ∀ n ∈ ns, n.IsSound source

/-- An `if` begins at the level. -/
def BeginsAt (level : Level) : Node → Prop
  | .branch pos .. => Begins source level "if" pos
  | _ => True

/-- A sound statement at a level. -/
structure Stands (level : Level) (n : Node) : Prop where
  beginsAt : n.BeginsAt source level
  isSound : n.IsSound source

/-- The statements of a block stand at one level, deeper than those around the block. -/
def StandDeeper (levels : List Level) (ns : List Node) : Prop :=
  ∃ level, (innermost levels).alt < level.alt ∧ ∀ n ∈ ns, n.Stands source level

variable {source}

theorem isSound_iff (n : Node) : n.IsSound source ↔ n.Paired source ∧ AreSound source n.children := by
  unfold AreSound IsSound
  rw [preorder_eq n, List.forall_mem_cons, List.forall_mem_flatMap]

@[simp] theorem areSound_nil : AreSound source [] := fun _ h => nomatch h

@[simp] theorem areSound_cons {n : Node} {ns : List Node} :
    AreSound source (n :: ns) ↔ n.IsSound source ∧ AreSound source ns := List.forall_mem_cons

@[simp] theorem areSound_append {ns ms : List Node} :
    AreSound source (ns ++ ms) ↔ AreSound source ns ∧ AreSound source ms := List.forall_mem_append

theorem IsPlain.isSound {n : Node} (h : n.IsPlain) : n.IsSound source := by
  intro m hm
  have hblock := h m hm
  cases m <;> simp_all [Paired, hasBlock]

theorem ArePlain.areSound {ns : List Node} (h : ArePlain ns) : AreSound source ns :=
  fun n hn => (h n hn).isSound

theorem IsPlain.stands {n : Node} (h : n.IsPlain) (level : Level) : n.Stands source level where
  beginsAt := by
    have hblock := ((isPlain_iff n).mp h).1
    cases n <;> simp_all [BeginsAt, hasBlock]
  isSound := h.isSound

theorem StandDeeper.areSound {levels : List Level} {ns : List Node} (h : StandDeeper source levels ns) :
    AreSound source ns := by
  obtain ⟨level, -, hns⟩ := h
  exact fun n hn => (hns n hn).isSound

theorem ArePlain.standDeeper {ns : List Node} (h : ArePlain ns) (levels : List Level) :
    StandDeeper source levels ns :=
  ⟨⟨0, (innermost levels).alt + 1⟩, Nat.lt_succ_self _, fun n hn => (h n hn).stands _⟩

/-- A statement that is no `if` stands at every level if its parts are sound. -/
theorem Stands.of_children {level : Level} {n : Node} (hbegins : n.BeginsAt source level)
    (hpaired : n.Paired source) (h : AreSound source n.children) : n.Stands source level :=
  ⟨hbegins, (isSound_iff n).mpr ⟨hpaired, h⟩⟩

/-! ## Branches -/

/-- The `else` part of an `if`: the statements of a block, or an `elif`. -/
def IsElse (source : Text) (levels : List Level) (orelse : List Node) : Prop :=
  StandDeeper source levels orelse ∨ ∃ pos test body last,
    orelse = [.branch pos test body last] ∧ Begins source (innermost levels) "elif" pos

theorem IsElse.paired {levels : List Level} {word : Text} {pos : Position} {orelse : List Node}
    (h : IsElse source levels orelse) (hpos : Begins source (innermost levels) word pos) (test : Node)
    (body : List Node) : (branch pos test body orelse).Paired source := by
  rcases h with ⟨deeper, hdeeper, horelse⟩ | ⟨pos', test', body', last, rfl, hpos'⟩
  · -- a block can have one `if` as well, which is then on the deeper level of the block
    unfold Paired
    split
    · rename_i heq
      cases heq
      exact ⟨_, word, hpos, .inr ⟨deeper, hdeeper, (horelse _ (List.mem_singleton_self _)).beginsAt⟩⟩
    · trivial
  · exact ⟨_, word, hpos, .inl hpos'⟩

/-- A condition at a keyword, with its block. -/
structure IsPart (source : Text) (levels : List Level) (word : Text)
    (c : Position × Node × List Node) : Prop where
  begins : Begins source (innermost levels) word c.1
  test : c.2.1.IsPlain
  body : StandDeeper source levels c.2.2

theorem IsPart.isSound {levels : List Level} {word : Text} {c : Position × Node × List Node}
    (h : IsPart source levels word c) {orelse : List Node} (helse : IsElse source levels orelse)
    (hsound : AreSound source orelse) : (branch c.1 c.2.1 c.2.2 orelse).IsSound source := by
  rw [isSound_iff]
  refine ⟨helse.paired h.begins _ _, ?_⟩
  simp [children, h.test.isSound, h.body.areSound, hsound]

/-- The `elif` parts are nested in each other. -/
theorem isElse_foldr {levels : List Level} {further : List (Position × Node × List Node)}
    {last : List Node} (h : ∀ c ∈ further, IsPart source levels "elif" c)
    (hlast : StandDeeper source levels last) :
    let orelse := further.foldr (fun c orelse => [branch c.1 c.2.1 c.2.2 orelse]) last
    IsElse source levels orelse ∧ AreSound source orelse := by
  induction further with
  | nil => exact ⟨.inl hlast, hlast.areSound⟩
  | cons c further ih =>
    obtain ⟨hc, hfurther⟩ := List.forall_mem_cons.mp h
    obtain ⟨helse, hsound⟩ := ih hfurther
    refine ⟨.inr ⟨_, _, _, _, rfl, hc.begins⟩, ?_⟩
    exact areSound_cons.mpr ⟨hc.isSound helse hsound, areSound_nil⟩

end Node

/-! ## Parsers and levels -/

/-- A statement may start here, at the innermost of the levels. -/
def AtLevel (source : Text) (levels : List Level) : List Lexeme → Prop := Layout source levels true

/-- Lexemes of a line at the innermost of the levels. -/
def InLine (source : Text) (levels : List Level) (ls : List Lexeme) : Prop :=
  ∃ start, Layout source levels start ls

theorem InLine.of_sameLine {source : Text} {levels : List Level} {ls rest : List Lexeme}
    (h : InLine source levels ls) (hrest : SameLine ls rest) : InLine source levels rest := by
  obtain ⟨taken, rfl, htaken⟩ := hrest
  induction taken with
  | nil => exact h
  | cons l taken ih =>
    obtain ⟨hl, htaken⟩ := List.forall_mem_cons.mp htaken
    obtain ⟨start, h⟩ := h
    -- what is taken is no layout, so the levels stay
    cases h with
    | newline hcls _ => simp [isLayout, hcls] at hl
    | indent hcls _ _ => simp [isLayout, hcls] at hl
    | dedent hcls _ => simp [isLayout, hcls] at hl
    | first _ _ h => exact ih htaken ⟨false, h⟩
    | inside _ h => exact ih htaken ⟨false, h⟩

namespace Parser.Turns

variable {α β : Type} {source : Text} {levels : List Level} {P : List Lexeme → Prop}
  {Q : α → List Lexeme → Prop} {R : β → List Lexeme → Prop}

/-- What is read inside a line leaves the level as it is. -/
theorem inLine {S : α → Prop} {p : Parser α} {f : α → Parser β} (hp : Gives S p)
    (hf : ∀ a, S a → Turns (InLine source levels) R (f a)) :
    Turns (InLine source levels) R (p >>= f) := by
  intro ls b rest h hrun
  obtain ⟨a, mid, ha, hb⟩ := bind_eq_some.mp hrun
  obtain ⟨hmid, hS⟩ := hp ha
  exact hf a hS (h.of_sameLine hmid) hb

/-- What may be read inside a line may be read at its start. -/
theorem atLevel {p : Parser α} (h : Turns (InLine source levels) Q p) :
    Turns (AtLevel source levels) Q p := fun _ _ _ hP hrun => h ⟨true, hP⟩ hrun

/-- One node or none, before the rest is read. -/
theorem inLineItem {c : Prop} [Decidable c] {p : Parser Node} {f : List Node → Parser β}
    (hp : Gives Node.IsPlain p)
    (hf : ∀ ns, Node.ArePlain ns → Turns (InLine source levels) R (f ns)) :
    Turns (InLine source levels) R
      (if c then p >>= fun n => Pure.pure [n] >>= f else Pure.pure [] >>= f) :=
  .ite (.inLine hp fun _ hn => .inLine (.pure (by simpa using hn)) hf)
    (.inLine (.pure Node.arePlain_nil) hf)

theorem exists_of {ι : Type} {P : ι → List Lexeme → Prop} {p : Parser α} (h : ∀ i, Turns (P i) Q p) :
    Turns (fun ls => ∃ i, P i ls) Q p := fun _ _ _ ⟨i, hP⟩ hrun => h i hP hrun

theorem newline : Turns (InLine source levels) (fun _ => AtLevel source levels) Grammar.lineEnd := by
  have hline : Turns (InLine source levels) (fun _ => AtLevel source levels) (ofClass .newline) := by
    rintro ls l rest ⟨start, h⟩ hrun
    obtain ⟨hl, rfl⟩ := ofClass_eq_some.mp hrun
    cases h <;> simp_all [isLayout, AtLevel]
  exact .bind hline fun _ => .pure fun _ h => h

theorem indent : Turns (AtLevel source levels)
    (fun _ ls => ∃ level, (innermost levels).alt < level.alt ∧ AtLevel source (level :: levels) ls)
    (ofClass .indent) := by
  intro ls l rest h hrun
  obtain ⟨hl, rfl⟩ := ofClass_eq_some.mp hrun
  cases h with
  | indent _ hlevel h => exact ⟨_, hlevel, h⟩
  | _ => simp_all [isLayout]

theorem dedent {level : Level} : Turns (AtLevel source (level :: levels))
    (fun _ => AtLevel source levels) (ofClass .dedent) := by
  intro ls l rest h hrun
  obtain ⟨hl, rfl⟩ := ofClass_eq_some.mp hrun
  cases h with
  | dedent _ h => exact h
  | _ => simp_all [isLayout]

/-- The keyword with which a statement starts. -/
theorem keyword {word : Text} : Turns (AtLevel source levels)
    (fun l ls => Begins source (innermost levels) word l.pos ∧ InLine source levels ls)
    (keyword word) := by
  intro ls l rest h hrun
  obtain ⟨⟨hl, htext⟩, rfl⟩ := exactly_eq_some.mp hrun
  cases h with
  | first _ hbegins h => exact ⟨htext ▸ hbegins hl, false, h⟩
  | _ => simp_all

/-- Behind a keyword the line goes on; else a statement may start. -/
theorem atLevelKeywordIf {text : Text} : Turns (AtLevel source levels)
    (fun b ls => if b then InLine source levels ls else AtLevel source levels ls)
    (Parser.keywordIf text) := by
  intro ls b rest h hrun
  obtain ⟨hline, -⟩ := Gives.keywordIf hrun
  cases b with
  | true => exact InLine.of_sameLine ⟨true, h⟩ hline
  | false =>
    cases ls with
    | nil => cases hrun; exact h
    | cons l ls =>
      rw [Parser.keywordIf, take?] at hrun
      split_ifs at hrun <;> cases hrun
      exact h

/-- Repetitions of a part, each of which has a property. -/
theorem repeated {S : α → Prop} {p : Parser α} (hp : Turns P (fun a ls => S a ∧ P ls) p) :
    ∀ fuel, Turns P (fun xs ls => (∀ x ∈ xs, S x) ∧ P ls) (Parser.many p fuel)
  | 0 => .pure fun _ h => ⟨by simp, h⟩
  | fuel + 1 => by
    refine .orElse (.bind hp fun x => .given fun hx => ?_) (.pure fun _ h => ⟨by simp, h⟩)
    refine .bind (repeated hp fuel) fun xs => .given fun hxs => .pure fun ls h => ?_
    exact ⟨List.forall_mem_cons.mpr ⟨hx, hxs⟩, h⟩

theorem repeated1 {S : α → Prop} {p : Parser α} (hp : Turns P (fun a ls => S a ∧ P ls) p)
    (fuel : Nat) : Turns P (fun xs ls => (∀ x ∈ xs, S x) ∧ P ls) (Parser.many1 p fuel) := by
  refine .bind hp fun x => .given fun hx => .bind (repeated hp fuel) fun xs => .given fun hxs => ?_
  exact .pure fun ls h => ⟨List.forall_mem_cons.mpr ⟨hx, hxs⟩, h⟩

end Parser.Turns

/-! ## Statements -/

namespace Grammar

open Node

/-- The statement stands at the innermost level, and the next one may start there. -/
abbrev EndsAt (source : Text) (levels : List Level) (n : Node) (ls : List Lexeme) : Prop :=
  n.Stands source (innermost levels) ∧ AtLevel source levels ls

/-- The same of several statements. -/
abbrev EndAt (source : Text) (levels : List Level) (ns : List Node) (ls : List Lexeme) : Prop :=
  (∀ n ∈ ns, n.Stands source (innermost levels)) ∧ AtLevel source levels ls

/-- A floor on which expressions are plain, and statements stand at the level of their lexemes. -/
structure IsLeveled (g : Grammar) : Prop where
  isPlain : g.IsPlain
  statements : ∀ source levels, Turns (AtLevel source levels) (EndAt source levels) g.statements

namespace IsLeveled

variable {g : Grammar} (hg : g.IsLeveled) {source : Text} {levels : List Level}
include hg

theorem simpleLine : Turns (InLine source levels)
    (fun ns ls => ArePlain ns ∧ AtLevel source levels ls) g.simpleLine := by
  have hplain := hg.isPlain.simpleStatement
  refine .inLine hplain fun first hfirst => ?_
  refine .inLine (.many (.bind .op fun _ _ => hplain) _) fun others hothers => ?_
  refine .inLine .opIf fun _ _ => .bind .newline fun _ => .pure fun ls h => ?_
  exact ⟨arePlain_cons.mpr ⟨hfirst, hothers⟩, h⟩

theorem block : Turns (InLine source levels)
    (fun ns ls => StandDeeper source levels ns ∧ AtLevel source levels ls) g.block := by
  refine .inLine .op fun _ _ => .bind .peek fun _ => .ite ?_ ?_
  · refine .bind .newline fun _ => .bind .indent fun _ => .exists_of fun level => .given fun hlevel => ?_
    refine .bind (hg.statements source (level :: levels)) fun body => .given fun hbody => ?_
    exact .bind .dedent fun _ => .pure fun ls h => ⟨⟨level, hlevel, hbody⟩, h⟩
  · exact .imp hg.simpleLine (fun _ h => h) fun ns ls h => ⟨h.1.standDeeper levels, h.2⟩

theorem elseBlock : Turns (AtLevel source levels)
    (fun ns ls => StandDeeper source levels ns ∧ AtLevel source levels ls) g.elseBlock := by
  refine .bind .atLevelKeywordIf fun b => ?_
  cases b with
  | false => exact .pure fun ls h => ⟨arePlain_nil.standDeeper levels, h⟩
  | true => exact hg.block

theorem conditionBlock (word : Text) : Turns (AtLevel source levels)
    (fun c ls => IsPart source levels word c ∧ AtLevel source levels ls) (g.conditionBlock word) := by
  refine .bind .keyword fun l => .given fun hl => .inLine hg.isPlain.named fun test htest => ?_
  exact .bind hg.block fun body => .given fun hbody => .pure fun ls h => ⟨⟨hl, htest, hbody⟩, h⟩

theorem ifStatement : Turns (AtLevel source levels) (EndsAt source levels) g.ifStatement := by
  refine .bind (hg.conditionBlock "if") fun c => .given fun hc => ?_
  refine .bind (.repeated (hg.conditionBlock "elif") _) fun further => .given fun hfurther => ?_
  refine .bind hg.elseBlock fun last => .given fun hlast => .pure fun ls h => ?_
  obtain ⟨helse, hsound⟩ := isElse_foldr hfurther hlast
  exact ⟨⟨hc.begins, hc.isSound helse hsound⟩, h⟩

theorem whileStatement : Turns (AtLevel source levels) (EndsAt source levels) g.whileStatement := by
  refine .bind (hg.conditionBlock "while") fun c => .given fun hc => ?_
  refine .bind hg.elseBlock fun orelse => .given fun horelse => .pure fun ls h => ⟨?_, h⟩
  refine .of_children trivial trivial ?_
  simp [children, hc.test.isSound, hc.body.areSound, horelse.areSound]

theorem forStatement (kind : LoopKind) :
    Turns (InLine source levels) (EndsAt source levels) (g.forStatement kind) := by
  refine .inLine .keyword fun _ _ => .inLine hg.isPlain.targets fun target htarget => ?_
  refine .inLine .keyword fun _ _ => .inLine hg.isPlain.expressions fun iter hiter => ?_
  refine .bind hg.block fun body => .given fun hbody => ?_
  refine .bind hg.elseBlock fun orelse => .given fun horelse => .pure fun ls h => ⟨?_, h⟩
  refine .of_children trivial trivial ?_
  simp [children, htarget.isSound, hiter.isSound, hbody.areSound, horelse.areSound]

theorem withStatement (kind : Kind) :
    Turns (InLine source levels) (EndsAt source levels) (g.withStatement kind) := by
  have hitem := IsSound.withItem hg.isPlain
  refine .inLine .keyword fun _ _ => ?_
  refine .inLine (.orElse (IsSound.parenthesizedItems hg.isPlain) (.sepByComma hitem _))
    fun items hitems => ?_
  refine .bind hg.block fun body => .given fun hbody => .pure fun ls h => ⟨?_, h⟩
  have hitems' : AreSound source items := ArePlain.areSound hitems
  refine .of_children trivial trivial ?_
  simp [children, hitems', hbody.areSound]

theorem exceptClause (star : Bool) : Turns (InLine source levels)
    (fun n ls => n.IsSound source ∧ AtLevel source levels ls) (g.exceptClause star) := by
  have hhandler : ∀ {type : List Node}, ArePlain type → Turns (InLine source levels)
      (fun n ls => n.IsSound source ∧ AtLevel source levels ls)
      (do return handler type (← g.block)) := by
    intro type htype
    refine .bind hg.block fun body => .given fun hbody => .pure fun ls h => ⟨?_, h⟩
    rw [isSound_iff]
    refine ⟨trivial, ?_⟩
    simp [children, htype.areSound, hbody.areSound]
  have htail : Turns (InLine source levels)
      (fun n ls => n.IsSound source ∧ AtLevel source levels ls) (do
        if !star && (← atOp ":") then return handler [] (← g.block)
        else
          let type ← g.expression
          if ← keywordIf "as" then let _ ← ident
          return handler [type] (← g.block)) := by
    refine .inLine .atOp fun _ _ => .ite (hhandler arePlain_nil) ?_
    refine .inLine hg.isPlain.expression fun type htype => .inLine .keywordIf fun _ _ => ?_
    have hblock := hhandler (arePlain_cons.mpr ⟨htype, arePlain_nil⟩)
    exact .ite (.inLine .ident fun _ _ => hblock) hblock
  exact .inLine .keyword fun _ _ => .ite (.inLine .op fun _ _ => htail) htail

theorem exceptClauses (star : Bool) (fuel : Nat) : Turns (AtLevel source levels)
    (fun ns ls => AreSound source ns ∧ AtLevel source levels ls) (many (g.exceptClause star) fuel) :=
  .repeated (.atLevel (hg.exceptClause star)) fuel

theorem tryStatement : Turns (InLine source levels) (EndsAt source levels) g.tryStatement := by
  have hnone : Turns (AtLevel source levels)
      (fun ns ls => AreSound source ns ∧ AtLevel source levels ls) (pure []) :=
    .pure fun ls h => ⟨areSound_nil, h⟩
  have helse : Turns (AtLevel source levels)
      (fun ns ls => AreSound source ns ∧ AtLevel source levels ls) g.elseBlock :=
    .imp hg.elseBlock (fun _ h => h) fun ns ls h => ⟨h.1.areSound, h.2⟩
  refine .inLine .keyword fun _ _ => .bind hg.block fun body => .given fun hbody => ?_
  refine .bind (hg.exceptClauses false _) fun plainClauses => .given fun hplain => ?_
  refine .fork (hg.exceptClauses true _) hnone fun starClauses => .given fun hstar => ?_
  refine .fork hnone helse fun orelse => .given fun horelse => ?_
  refine .bind .atKeyword fun _ => .bind .guard fun _ => .bind .atLevelKeywordIf fun b => ?_
  have hfinal : ∀ {final : List Node} {kind : Kind}, AreSound source final →
      (plain kind (body ++ (plainClauses ++ starClauses) ++ orelse ++ final)).Stands source
        (innermost levels) := by
    intro final kind hfinal
    refine .of_children trivial trivial ?_
    simp [children, hbody.areSound, hplain, hstar, horelse, hfinal]
  cases b with
  | false => exact .bind hnone fun final => .given fun h => .pure fun ls hls => ⟨hfinal h, hls⟩
  | true => exact .bind hg.block fun final => .given fun h => .pure fun ls hls =>
      ⟨hfinal h.areSound, hls⟩

theorem functionStatement (isAsync : Bool) (start : Option Position) {decorators : List Node}
    (hdecorators : ArePlain decorators) : Turns (InLine source levels) (EndsAt source levels)
      (g.functionStatement isAsync start decorators) := by
  refine .inLine .keyword fun _ _ => .inLine .ident fun _ _ => .inLine .op fun _ _ => ?_
  refine .inLine (hg.isPlain.parameters _ _) fun args hargs => ?_
  refine .inLine .op fun _ _ => .inLine .opIf fun _ _ => ?_
  refine .inLineItem hg.isPlain.expression fun returns hreturns => ?_
  refine .bind hg.block fun body => .given fun hbody => .pure fun ls h => ⟨?_, h⟩
  refine .of_children trivial trivial ?_
  simp [children, hargs.isSound, hbody.areSound, hdecorators.areSound, hreturns.areSound]

theorem classStatement {decorators : List Node} (hdecorators : ArePlain decorators) :
    Turns (InLine source levels) (EndsAt source levels) (g.classStatement decorators) := by
  have hbody : ∀ (name : Text) (pos : Position) {bases keywords : List Node}, ArePlain bases →
      ArePlain keywords → Turns (InLine source levels) (EndsAt source levels)
        (do return classDef name pos bases keywords (← g.block) decorators) := by
    intro name pos bases keywords hbases hkeywords
    refine .bind hg.block fun body => .given fun hbody => .pure fun ls h => ⟨?_, h⟩
    refine .of_children trivial trivial ?_
    simp [children, hbases.areSound, hkeywords.areSound, hbody.areSound, hdecorators.areSound]
  refine .inLine .keyword fun l _ => .inLine .ident fun name _ => .inLine .opIf fun _ _ => .ite ?_ ?_
  · refine .inLine (hg.isPlain.arguments _) fun r hr => .inLine .op fun _ _ => ?_
    exact hbody name l.pos hr.1 hr.2
  · exact hbody name l.pos arePlain_nil arePlain_nil

theorem asyncStatement : Turns (InLine source levels) (EndsAt source levels) g.asyncStatement :=
  .inLine .keyword fun _ _ => .inLine .atKeyword fun _ _ =>
    .ite (hg.functionStatement _ _ arePlain_nil)
      (.inLine .atKeyword fun _ _ => .ite (hg.withStatement _) (hg.forStatement _))

theorem decoratedStatement :
    Turns (AtLevel source levels) (EndsAt source levels) g.decoratedStatement := by
  have hdecorator : Turns (AtLevel source levels)
      (fun d ls => d.IsPlain ∧ AtLevel source levels ls) (do
        let _ ← op "@"
        let d ← g.named
        Grammar.lineEnd
        return d) :=
    .atLevel (.inLine .op fun _ _ => .inLine hg.isPlain.named fun _ hd =>
      .bind .newline fun _ => .pure fun _ h => ⟨hd, h⟩)
  refine .bind (.repeated1 hdecorator _) fun decorators => .given fun hdecorators => ?_
  refine .atLevel (.inLine .atKeyword fun _ _ => .ite (hg.classStatement hdecorators) ?_)
  refine .inLine .atKeyword fun _ _ => .ite ?_ (hg.functionStatement _ _ hdecorators)
  exact .inLine .keyword fun _ _ => hg.functionStatement _ _ hdecorators

theorem caseBlock : Turns (InLine source levels)
    (fun n ls => n.IsSound source ∧ AtLevel source levels ls) g.caseBlock := by
  refine .inLine IsPlain.softKeyword fun _ _ => .inLine hg.isPlain.casePattern fun pattern hpattern => ?_
  refine .inLine .keywordIf fun _ _ => .inLineItem hg.isPlain.named fun condition hcondition => ?_
  refine .bind hg.block fun body => .given fun hbody => .pure fun ls h => ⟨?_, h⟩
  rw [isSound_iff]
  refine ⟨trivial, ?_⟩
  simp [children, hpattern.isSound, hcondition.areSound, hbody.areSound]

theorem matchStatement : Turns (InLine source levels) (EndsAt source levels) g.matchStatement := by
  refine .inLine IsPlain.softKeyword fun _ _ => ?_
  refine .inLine (IsPlain.itemOrTuple hg.isPlain.displayItem) fun subject hsubject => ?_
  refine .inLine .guard fun _ _ => .inLine .op fun _ _ => .bind .newline fun _ => ?_
  refine .bind .indent fun _ => .exists_of fun level => .given fun _ => ?_
  refine .bind (.repeated1 (.atLevel hg.caseBlock) _) fun cases => .given fun hcases => ?_
  refine .bind .dedent fun _ => .pure fun ls h => ⟨?_, h⟩
  have hcases' : AreSound source cases := hcases
  refine .of_children trivial trivial ?_
  simp [children, hsubject.isSound, hcases']

theorem statement : Turns (AtLevel source levels) (EndAt source levels) g.statement := by
  have hone : ∀ {p : Parser Node}, Turns (AtLevel source levels) (EndsAt source levels) p →
      Turns (AtLevel source levels) (EndAt source levels) (do return [← p]) :=
    fun hp => .bind hp fun n => .given fun hn => .pure fun ls h => ⟨by simpa using hn, h⟩
  have hsimple : Turns (AtLevel source levels) (EndAt source levels) g.simpleLine :=
    .imp (.atLevel hg.simpleLine) (fun _ h => h) fun ns ls h => ⟨fun n hn => (h.1 n hn).stands _, h.2⟩
  refine .bind .peek fun _ => .ite (.orElse (hone (.atLevel hg.matchStatement)) hsimple) ?_
  refine .ite (hone hg.decoratedStatement) (.ite hsimple ?_)
  refine .ite (hone hg.ifStatement) (.ite (hone (.atLevel (hg.functionStatement _ _ arePlain_nil))) ?_)
  refine .ite (hone (.atLevel (hg.classStatement arePlain_nil))) ?_
  refine .ite (hone (.atLevel (hg.forStatement _))) (.ite (hone hg.whileStatement) ?_)
  refine .ite (hone (.atLevel (hg.withStatement _))) ?_
  exact .ite (hone (.atLevel hg.tryStatement)) (.ite (hone (.atLevel hg.asyncStatement)) hsimple)

theorem statementsBody : Turns (AtLevel source levels) (EndAt source levels) g.statementsBody := by
  refine .bind (.repeated1 hg.statement _) fun nss => .given fun hnss => .pure fun ls h => ⟨?_, h⟩
  exact List.forall_mem_flatten.mpr hnss

theorem above : g.above.IsLeveled where
  isPlain := hg.isPlain.above
  statements := fun _ _ => hg.statementsBody

end IsLeveled

theorem isLeveled_floor : ∀ height, (floor height).IsLeveled
  | 0 => ⟨(isSound_floor 0).isPlain, fun _ _ => .failure⟩
  | height + 1 => (isLeveled_floor height).above

end Grammar

/-! ## Sources -/

/-- Every branch of a source, with the `if` that is its `else` part. -/
theorem Node.paired_of_ofText? {text : Text} {tree n : Node} (h : ofText? text = some tree)
    (hn : n ∈ tree.walk) : n.Paired text := by
  simp only [ofText?, Option.bind_eq_bind, Option.bind_eq_some_iff] at h
  obtain ⟨lexemes, hlexemes, ⟨m, rest⟩, hrun, hm⟩ := h
  cases hm
  have hleveled := Grammar.isLeveled_floor (2 * text.unifyNewlines.length + 8)
  have hfile : Turns (AtLevel text []) (fun n _ => n.IsSound text)
      (Grammar.floor (2 * text.unifyNewlines.length + 8)).file := by
    refine .bind .peek fun _ => .fork (Q := fun ns ls => AreSound text ns ∧ AtLevel text [] ls)
      (.pure fun ls h => ⟨areSound_nil, h⟩) (.imp (hleveled.statements text []) (fun _ h => h)
        fun ns ls h => ⟨fun n hn => (h.1 n hn).isSound, h.2⟩) fun body => .given fun hbody => ?_
    refine .atLevel (.inLine (.ofClass (by decide)) fun _ _ => .pure fun ls _ => ?_)
    rw [isSound_iff]
    exact ⟨trivial, hbody⟩
  have hsound := hfile (Lexeme.layout_ofText? hlexemes) hrun
  exact hsound n ((walk_perm_preorder m).mem_iff.mp hn)

end HouseStyle.Syntax
