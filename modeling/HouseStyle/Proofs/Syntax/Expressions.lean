import HouseStyle.Proofs.Syntax.Parsing
import HouseStyle.Syntax.Statement
import Mathlib.Data.Option.Basic

/-!
# Expressions and patterns are plain

No form of an expression, pattern or simple statement has a block of statements. This is shown floor by
floor: if the parsers that recursive uses go to give plain nodes, so do those of the floor above.

Main definitions:
* `Grammar.IsPlain`: a floor on which expressions and patterns are plain.

Main results:
* `Grammar.IsPlain.expressions`, `Grammar.IsPlain.arguments` and others: the forms that statements use.
* `Grammar.IsPlain.simpleStatement`: the statements within a line.
* `Grammar.IsPlain.above`: the floor above.
-/

namespace HouseStyle.Syntax.Grammar

open HouseStyle.Syntax.Parser HouseStyle.Syntax.Node

/-- The parsers for expressions and patterns that recursive uses go to give plain nodes. -/
structure IsPlain (g : Grammar) : Prop where
  expression : Gives Node.IsPlain g.expression
  disjunction : Gives Node.IsPlain g.disjunction
  inversion : Gives Node.IsPlain g.inversion
  bitwiseOr : Gives Node.IsPlain g.bitwiseOr
  factor : Gives Node.IsPlain g.factor
  primary : Gives Node.IsPlain g.primary
  pattern : Gives Node.IsPlain g.pattern

/-- All parameters with their annotations and defaults are plain. -/
structure Parameters.ArePlain (p : Parameters) : Prop where
  positionalOnly : Node.ArePlain p.positionalOnly
  regular : Node.ArePlain p.regular
  variadic : Node.ArePlain p.variadic
  keywordOnly : Node.ArePlain p.keywordOnly
  keywordDefaults : Node.ArePlain p.keywordDefaults
  variadicKeyword : Node.ArePlain p.variadicKeyword
  defaults : Node.ArePlain p.defaults

theorem Parameters.ArePlain.toNode {p : Parameters} (h : p.ArePlain) : p.toNode.IsPlain := by
  simp only [Parameters.toNode, isPlain_plain, arePlain_append]
  exact ⟨⟨⟨⟨⟨⟨h.positionalOnly, h.regular⟩, h.variadic⟩, h.keywordOnly⟩, h.keywordDefaults⟩,
    h.variadicKeyword⟩, h.defaults⟩

namespace IsPlain

variable {g : Grammar} (hg : g.IsPlain)
include hg

/-! ## Named and starred expressions -/

theorem named : Gives Node.IsPlain g.named := by
  refine .bind .atNameAnd fun _ _ => .ite ?_ hg.expression
  exact .bind .ident fun _ _ => .bind .op fun _ _ => .bind hg.expression fun e he =>
    .pure (by simpa using he)

theorem starred : Gives Node.IsPlain g.starred :=
  .bind .op fun _ _ => .bind hg.bitwiseOr fun _ he => .pure (by simpa using he)

theorem displayItem : Gives Node.IsPlain g.displayItem :=
  .bind .atOp fun _ _ => .ite hg.starred hg.named

theorem listItem : Gives Node.IsPlain g.listItem :=
  .bind .atOp fun _ _ => .ite hg.starred hg.expression

omit hg in
theorem itemOrTuple {item : Parser Node} (hitem : Gives Node.IsPlain item) :
    Gives Node.IsPlain (g.itemOrTuple item) := by
  refine .bind hitem fun first hfirst => .bind .opIf fun _ _ => .ite ?_ (.pure hfirst)
  exact .bind (.commaItems hitem _) fun others hothers => .pure (isPlain_plain.mpr (arePlain_cons.mpr ⟨hfirst, hothers⟩))

theorem expressions : Gives Node.IsPlain g.expressions := itemOrTuple hg.listItem

theorem yielding : Gives Node.IsPlain g.yielding := by
  refine .bind .keyword fun _ _ => .bind .keywordIf fun _ _ => .ite ?_ ?_
  · exact .bind hg.expression fun _ he => .pure (by simpa using he)
  · exact .bind (.optional hg.expressions) fun _ hes => .pure (isPlain_plain.mpr hes)

theorem value : Gives Node.IsPlain g.value :=
  .bind .atKeyword fun _ _ => .ite hg.yielding hg.expressions

/-! ## Targets and comprehensions -/

theorem target : Gives Node.IsPlain g.target := by
  refine .bind .opIf fun star _ => .bind hg.primary fun t ht => .bind .guard fun _ _ => .pure ?_
  split_ifs
  · simpa using ht
  · exact ht

theorem targets : Gives Node.IsPlain g.targets := itemOrTuple hg.target

theorem forClause : Gives Node.IsPlain g.forClause := by
  refine .bind .keywordIf fun _ _ => .bind .keyword fun _ _ => .bind hg.targets fun target ht => ?_
  refine .bind .keyword fun _ _ => .bind hg.disjunction fun iter hi => ?_
  refine .bind (.many (.bind .keyword fun _ _ => hg.disjunction) _) fun conditions hc => .pure ?_
  exact isPlain_plain.mpr (arePlain_cons.mpr ⟨ht, arePlain_cons.mpr ⟨hi, hc⟩⟩)

theorem forClauses : Gives ArePlain g.forClauses := .many1 hg.forClause _

/-! ## Parameters -/

theorem parameter (annotated : Bool) : Gives Node.IsPlain (g.parameter annotated) := by
  unfold Grammar.parameter
  refine .bind .ident fun _ _ => .ite ?_ (.pure (by simp))
  refine .bind .opIf fun _ _ => .ite ?_ (.pure (by simp))
  exact .bind hg.expression fun _ he => .pure (by simpa using he)

theorem variadicParameter (annotated : Bool) : Gives Node.IsPlain (g.variadicParameter annotated) := by
  unfold Grammar.variadicParameter
  refine .bind .ident fun _ _ => .ite ?_ (.pure (by simp))
  refine .bind .opIf fun _ _ => .ite ?_ (.pure (by simp))
  exact .bind hg.listItem fun _ he => .pure (by simpa using he)

omit hg in
theorem parameterEnd {close : Text} : Gives (fun _ => True) (parameterEnd close) :=
  .bind .opIf fun _ _ => .ite (.pure trivial) (.bind .atOp fun _ _ => .imp .guard fun _ _ => trivial)

theorem parametersFrom (annotated : Bool) (close : Text) : ∀ (fuel : Nat) (starred pending : Bool)
    {p : Parameters}, p.ArePlain →
      Gives Parameters.ArePlain (g.parametersFrom annotated close fuel starred pending p)
  | 0, _, _, _, _ => .failure
  | fuel + 1, starred, pending, p, hp => by
    have ih := @parametersFrom annotated close fuel
    refine .bind .atOp fun _ _ => .ite (.bind .guard fun _ _ => .pure hp) ?_
    refine .bind .opIf fun _ _ => .ite ?_ ?_
    · refine .bind .guard fun _ _ => .bind parameterEnd fun _ _ => ih _ _ ?_
      exact { hp with positionalOnly := hp.regular, regular := by simp }
    refine .bind .opIf fun _ _ => .ite ?_ ?_
    · refine .bind .guard fun _ _ => .bind (hg.parameter annotated) fun arg harg => ?_
      refine .bind parameterEnd fun _ _ => .bind .atOp fun _ _ => .bind .guard fun _ _ => .pure ?_
      exact { hp with variadicKeyword := by simpa using harg }
    refine .bind .opIf fun _ _ => .ite ?_ ?_
    · refine .bind .guard fun _ _ => .bind .opIf fun _ _ => .ite (ih _ _ hp) ?_
      refine .bind (hg.variadicParameter annotated) fun arg harg => ?_
      refine .bind parameterEnd fun _ _ => ih _ _ ?_
      exact { hp with variadic := by simpa using harg }
    · refine .bind (hg.parameter annotated) fun arg harg => .bind .opIf fun _ _ => ?_
      refine .ifItem hg.expression fun default hdefault => .bind parameterEnd fun _ _ => .ite ?_ ?_
      · refine ih _ _ { hp with keywordOnly := ?_, keywordDefaults := ?_ }
        · exact arePlain_append.mpr ⟨hp.keywordOnly, by simpa using harg⟩
        · exact arePlain_append.mpr ⟨hp.keywordDefaults, hdefault⟩
      · refine .bind .guard fun _ _ => ih _ _ { hp with regular := ?_, defaults := ?_ }
        · exact arePlain_append.mpr ⟨hp.regular, by simpa using harg⟩
        · exact arePlain_append.mpr ⟨hp.defaults, hdefault⟩

theorem parameters (annotated : Bool) (close : Text) :
    Gives Node.IsPlain (g.parameters annotated close) := by
  have hnone : ({} : Parameters).ArePlain := ⟨by simp, by simp, by simp, by simp, by simp, by simp, by simp⟩
  exact .bind (hg.parametersFrom annotated close _ _ _ hnone) fun _ hp => .pure hp.toNode

theorem lambda : Gives Node.IsPlain g.lambda :=
  .bind .keyword fun _ _ => .bind (hg.parameters false ":") fun _ hargs => .bind .op fun _ _ =>
    .bind hg.expression fun _ hbody => .pure (by simp [hargs, hbody])

/-! ## Atoms -/

theorem fieldExpression {pos : Position} {t : Text} {n : Node} (h : g.fieldExpression pos t = some n) :
    n.IsPlain := by
  simp only [Grammar.fieldExpression, Option.bind_eq_bind, Option.bind_eq_some_iff] at h
  obtain ⟨lexemes, -, ⟨e, rest⟩, he, -, -, hn⟩ := h
  cases hn
  exact (hg.expression he).2

omit hg in
mutual

theorem fieldNode {parse : Position → Text → Option Node}
    (hparse : ∀ pos t n, parse pos t = some n → n.IsPlain) :
    ∀ (f : Field) {n : Node}, Grammar.fieldNode parse f = some n → n.IsPlain
  | .mk expression pos none, n, h => by
    simp only [Grammar.fieldNode, Option.bind_eq_bind, Option.bind_eq_some_iff] at h
    obtain ⟨e, he, hn⟩ := h
    cases hn
    simpa using hparse pos expression e he
  | .mk expression pos (some spec), n, h => by
    simp only [Grammar.fieldNode, Option.bind_eq_bind, Option.bind_eq_some_iff] at h
    obtain ⟨e, he, ns, hns, hn⟩ := h
    cases hn
    simpa using ⟨hparse pos expression e he, fieldNodes hparse spec hns⟩

theorem fieldNodes {parse : Position → Text → Option Node}
    (hparse : ∀ pos t n, parse pos t = some n → n.IsPlain) :
    ∀ (fs : List Field) {ns : List Node}, Grammar.fieldNodes parse fs = some ns → Node.ArePlain ns
  | [], ns, h => by
    cases h
    simp
  | f :: fs, ns, h => by
    simp only [Grammar.fieldNodes, Option.bind_eq_bind, Option.bind_eq_some_iff] at h
    obtain ⟨m, hm, ms, hms, hn⟩ := h
    cases hn
    exact arePlain_cons.mpr ⟨fieldNode hparse f hm, fieldNodes hparse fs hms⟩

end

theorem strings : Gives Node.IsPlain g.strings := by
  have hfields : ∀ l : Literal, Gives Node.ArePlain
      (liftM (l.fields?.bind (Grammar.fieldNodes g.fieldExpression)) : Parser (List Node)) := by
    refine fun l => .lift fun ns hns => ?_
    obtain ⟨fs, -, hns⟩ := Option.bind_eq_some_iff.mp hns
    exact fieldNodes (fun _ _ _ => hg.fieldExpression) fs hns
  refine .bind (.many1 (.ofClass (by decide)) _) fun literals _ => ?_
  refine .bind .guard fun _ _ => .bind .guard fun _ _ => ?_
  refine .ite (.bind (.mapM hfields _) fun fields hplain => .pure ?_) (.pure (by simp [constant]))
  exact isPlain_plain.mpr (arePlain_flatten.mpr hplain)

theorem parenthesized : Gives Node.IsPlain g.parenthesized := by
  refine .bind .op fun _ _ => .bind .opIf fun _ _ => .ite (.pure (by simp [tuple])) ?_
  refine .bind .atKeyword fun _ _ => .ite ?_ ?_
  · exact .bind hg.yielding fun y hy => .bind .op fun _ _ => .pure hy
  refine .bind hg.displayItem fun first hfirst => .bind .atFor fun _ _ => .ite ?_ ?_
  · refine .bind .guard fun _ _ => .bind hg.forClauses fun clauses hclauses => .bind .op fun _ _ => .pure ?_
    exact isPlain_plain.mpr (arePlain_cons.mpr ⟨hfirst, hclauses⟩)
  refine .bind .opIf fun _ _ => .ite ?_ ?_
  · refine .bind (.commaItems hg.displayItem _) fun others hothers => .bind .op fun _ _ => .pure ?_
    exact isPlain_plain.mpr (arePlain_cons.mpr ⟨hfirst, hothers⟩)
  · exact .bind .guard fun _ _ => .bind .op fun _ _ => .pure hfirst

theorem bracketed : Gives Node.IsPlain g.bracketed := by
  refine .bind .op fun _ _ => .bind .opIf fun _ _ => .ite (.pure (by simp)) ?_
  refine .bind hg.displayItem fun first hfirst => .bind .atFor fun _ _ => .ite ?_ ?_
  · refine .bind .guard fun _ _ => .bind hg.forClauses fun clauses hclauses => .bind .op fun _ _ => .pure ?_
    exact isPlain_plain.mpr (arePlain_cons.mpr ⟨hfirst, hclauses⟩)
  · refine .bind .opIf fun _ _ => .ifItems (.commaItems hg.displayItem _) fun others hothers => ?_
    refine .bind .op fun _ _ => .pure ?_
    exact isPlain_plain.mpr (arePlain_cons.mpr ⟨hfirst, hothers⟩)

theorem dictEntry : Gives (fun e => Node.ArePlain e.1 ∧ e.2.IsPlain) g.dictEntry := by
  refine .bind .opIf fun _ _ => .ite ?_ ?_
  · exact .bind hg.bitwiseOr fun _ hv => .pure ⟨arePlain_nil, hv⟩
  · exact .bind hg.expression fun _ hk => .bind .op fun _ _ => .bind hg.expression fun _ hv =>
      .pure ⟨by simpa using hk, hv⟩

omit hg in
theorem dictNode {entries : List (List Node × Node)}
    (h : ∀ e ∈ entries, Node.ArePlain e.1 ∧ e.2.IsPlain) : (Grammar.dictNode entries).IsPlain := by
  refine isPlain_plain.mpr (arePlain_append.mpr ⟨?_, ?_⟩)
  · intro n hn
    obtain ⟨e, he, hn⟩ := List.mem_flatMap.mp hn
    exact (h e he).1 n hn
  · intro n hn
    obtain ⟨e, he, rfl⟩ := List.mem_map.mp hn
    exact (h e he).2

theorem dictTail {first : List Node × Node} (hfirst : Node.ArePlain first.1 ∧ first.2.IsPlain) :
    Gives Node.IsPlain (g.dictTail first) := by
  refine .bind .opIf fun _ _ => .ifItems (.commaItems hg.dictEntry _) fun others hothers => ?_
  exact .bind .op fun _ _ => .pure (dictNode (List.forall_mem_cons.mpr ⟨hfirst, hothers⟩))

theorem setTail {first : Node} (hfirst : first.IsPlain) : Gives Node.IsPlain (g.setTail first) := by
  refine .bind .atFor fun _ _ => .ite ?_ ?_
  · refine .bind .guard fun _ _ => .bind hg.forClauses fun clauses hclauses => ?_
    exact .bind .op fun _ _ => .pure (isPlain_plain.mpr (arePlain_cons.mpr ⟨hfirst, hclauses⟩))
  · refine .bind .opIf fun _ _ => .ifItems (.commaItems hg.displayItem _) fun others hothers => ?_
    exact .bind .op fun _ _ => .pure (isPlain_plain.mpr (arePlain_cons.mpr ⟨hfirst, hothers⟩))

theorem braced : Gives Node.IsPlain g.braced := by
  refine .bind .op fun _ _ => .bind .opIf fun _ _ => .ite (.pure (dictNode (by simp))) ?_
  refine .bind .atOp fun _ _ => .ite (.bind hg.dictEntry fun _ hentry => hg.dictTail hentry) ?_
  refine .bind .atOp fun _ _ => .bind .atNameAnd fun _ _ => .ite ?_ ?_
  · exact .bind hg.displayItem fun _ hfirst => hg.setTail hfirst
  refine .bind hg.expression fun first hfirst => .bind .opIf fun _ _ => .ite ?_ (hg.setTail hfirst)
  refine .bind hg.expression fun value hvalue => .bind .atFor fun _ _ => .ite ?_ ?_
  · refine .bind hg.forClauses fun clauses hclauses => .bind .op fun _ _ => .pure ?_
    exact isPlain_plain.mpr (arePlain_cons.mpr ⟨hfirst, arePlain_cons.mpr ⟨hvalue, hclauses⟩⟩)
  · exact hg.dictTail ⟨by simpa using hfirst, hvalue⟩

theorem atom : Gives Node.IsPlain g.atom := by
  refine .bind .peek fun l _ => ?_
  have hconstant : Node.constant.IsPlain := by simp [constant]
  cases l.cls with
  | name => exact .bind .ident fun _ _ => .pure (by simp)
  | number => exact .bind (.ofClass (by decide)) fun _ _ => .pure hconstant
  | string => exact hg.strings
  | keyword => exact .ite (.bind (.ofClass (by decide)) fun _ _ => .pure hconstant) .failure
  | op =>
    refine .ite hg.parenthesized (.ite hg.bracketed (.ite hg.braced ?_))
    exact .bind .op fun _ _ => .pure hconstant
  | _ => exact .failure

/-! ## Calls and subscripts -/

theorem argumentsFrom : ∀ (generator : Bool) (fuel : Nat) (phase : ArgumentPhase),
    Gives (fun a => Node.ArePlain a.1 ∧ Node.ArePlain a.2) (g.argumentsFrom generator fuel phase)
  | _, 0, _ => .failure
  | generator, fuel + 1, phase => by
    have hmore : ∀ phase, Gives (fun a => Node.ArePlain a.1 ∧ Node.ArePlain a.2) (do
        if ← opIf "," then g.argumentsFrom false fuel phase
        else
          guard (← atOp ")")
          return ([], [])) := by
      intro phase
      refine .bind .opIf fun _ _ => .ite (argumentsFrom false fuel phase) ?_
      exact .bind .atOp fun _ _ => .bind .guard fun _ _ => .pure (by simp)
    refine .bind .atOp fun _ _ => .ite (.pure (by simp)) ?_
    refine .bind .opIf fun _ _ => .ite ?_ ?_
    · refine .bind hg.expression fun value hvalue => .bind (hmore _) fun a ha => .pure ?_
      exact ⟨ha.1, arePlain_cons.mpr ⟨by simpa using hvalue, ha.2⟩⟩
    refine .bind .opIf fun _ _ => .ite ?_ ?_
    · refine .bind .guard fun _ _ => .bind hg.expression fun value hvalue => ?_
      refine .bind (hmore _) fun a ha => .pure ?_
      exact ⟨arePlain_cons.mpr ⟨by simpa using hvalue, ha.1⟩, ha.2⟩
    refine .bind .atNameAnd fun _ _ => .ite ?_ ?_
    · refine .bind .ident fun _ _ => .bind .op fun _ _ => .bind hg.expression fun value hvalue => ?_
      refine .bind (hmore _) fun a ha => .pure ?_
      exact ⟨ha.1, arePlain_cons.mpr ⟨by simpa using hvalue, ha.2⟩⟩
    refine .bind .guard fun _ _ => .bind hg.named fun value hvalue => .bind .atFor fun _ _ => .ite ?_ ?_
    · refine .bind .guard fun _ _ => .bind hg.forClauses fun clauses hclauses => ?_
      refine .bind .atOp fun _ _ => .bind .guard fun _ _ => .pure ⟨?_, arePlain_nil⟩
      simpa using ⟨hvalue, hclauses⟩
    · exact .bind (hmore _) fun a ha => .pure ⟨arePlain_cons.mpr ⟨hvalue, ha.1⟩, ha.2⟩

theorem arguments (generator : Bool) :
    Gives (fun a => Node.ArePlain a.1 ∧ Node.ArePlain a.2) (g.arguments generator) :=
  hg.argumentsFrom generator _ _

theorem sliceTail {lower : List Node} (hlower : Node.ArePlain lower) :
    Gives Node.IsPlain (g.sliceTail lower) := by
  refine .bind (.optional hg.expression) fun upper hupper => .bind .opIf fun _ _ => ?_
  refine .ifItems (.optional hg.expression) fun step hstep => .pure ?_
  exact isPlain_plain.mpr (arePlain_append.mpr ⟨arePlain_append.mpr ⟨hlower, hupper⟩, hstep⟩)

theorem subscriptItem : Gives Node.IsPlain g.subscriptItem := by
  refine .bind .opIf fun _ _ => .ite (hg.sliceTail arePlain_nil) ?_
  refine .bind .opIf fun _ _ => .ite ?_ ?_
  · exact .bind hg.expression fun _ he => .pure (by simpa using he)
  refine .bind .atNameAnd fun _ _ => .ite hg.named ?_
  refine .bind hg.expression fun first hfirst => .bind .opIf fun _ _ => .ite ?_ (.pure hfirst)
  exact hg.sliceTail (by simpa using hfirst)

theorem subscripts : Gives Node.IsPlain g.subscripts := by
  refine .bind hg.subscriptItem fun first hfirst => .bind .opIf fun _ _ => .ite ?_ (.ite ?_ (.pure hfirst))
  · refine .bind (.commaItems hg.subscriptItem _) fun others hothers => .pure ?_
    exact isPlain_plain.mpr (arePlain_cons.mpr ⟨hfirst, hothers⟩)
  · exact .pure (by simpa [tuple] using hfirst)

theorem trailers : ∀ (fuel : Nat) {n : Node}, n.IsPlain → Gives Node.IsPlain (g.trailers fuel n)
  | 0, _, _ => .failure
  | fuel + 1, n, hn => by
    have ih := @trailers fuel
    refine .bind .opIf fun _ _ => .ite (.bind .ident fun _ _ => ih (by simpa using hn)) ?_
    refine .bind .opIf fun _ _ => .ite ?_ ?_
    · refine .bind (hg.arguments true) fun a ha => .bind .op fun _ _ => ih ?_
      simpa using ⟨hn, ha.1, ha.2⟩
    refine .bind .opIf fun _ _ => .ite ?_ (.pure hn)
    exact .bind hg.subscripts fun _ hindex => .bind .op fun _ _ => ih (by simp [hn, hindex])

theorem primaryBody : Gives Node.IsPlain g.primaryBody := .bind hg.atom fun _ hn => hg.trailers _ hn

/-! ## Operators -/

theorem power : Gives Node.IsPlain g.power := by
  refine .bind .keywordIf fun _ _ => .ite (.bind hg.primaryBody fun n hn =>
    .bind (.pure (isPlain_plain.mpr (arePlain_cons.mpr ⟨hn, arePlain_nil⟩))) fun base hbase => ?_)
    (.bind hg.primaryBody fun base hbase => ?_)
  all_goals
    refine .bind .opIf fun _ _ => .ite ?_ (.pure hbase)
    exact .bind hg.factor fun _ hn => .pure (by simp [hbase, hn])

theorem factorBody : Gives Node.IsPlain g.factorBody := by
  refine .bind .atOp fun _ _ => .bind .atOp fun _ _ => .bind .atOp fun _ _ => .ite ?_ hg.power
  exact .bind (.ofClass (by decide)) fun _ _ => .bind hg.factor fun _ hn => .pure (by simpa using hn)

theorem bitwiseOrBody : Gives Node.IsPlain g.bitwiseOrBody :=
  .leftAssoc (.leftAssoc (.leftAssoc (.leftAssoc (.leftAssoc (.leftAssoc hg.factorBody _) _) _) _) _) _

omit hg in
theorem comparator : Gives (fun _ => True) comparator := by
  refine .bind .keywordIf fun _ _ => .ite (.pure trivial) ?_
  refine .bind .keywordIf fun _ _ => .ite (.bind .keyword fun _ _ => .pure trivial) ?_
  refine .bind .keywordIf fun _ _ => .ite (.bind .keywordIf fun _ _ => .pure trivial) ?_
  exact .bind .opOf fun _ _ => .pure trivial

theorem comparison : Gives Node.IsPlain g.comparison := by
  refine .bind hg.bitwiseOrBody fun first hfirst => ?_
  refine .bind (.many (.bind comparator fun _ _ => hg.bitwiseOrBody) _) fun others hothers => .pure ?_
  split_ifs
  · exact hfirst
  · exact isPlain_plain.mpr (arePlain_cons.mpr ⟨hfirst, hothers⟩)

theorem inversionBody : Gives Node.IsPlain g.inversionBody := by
  refine .bind .keywordIf fun _ _ => .ite ?_ hg.comparison
  exact .bind hg.inversion fun _ hn => .pure (by simpa using hn)

omit hg in
theorem joined {o : BoolOp} {word : Text} {p : Parser Node} (hp : Gives Node.IsPlain p) :
    Gives Node.IsPlain (g.joined o word p) := by
  refine .bind hp fun first hfirst => ?_
  refine .bind (.many (.bind .keyword fun _ _ => hp) _) fun others hothers => .pure ?_
  split_ifs
  · exact hfirst
  · exact isPlain_junction.mpr (arePlain_cons.mpr ⟨hfirst, hothers⟩)

theorem disjunctionBody : Gives Node.IsPlain g.disjunctionBody := joined (joined hg.inversionBody)

theorem expressionBody : Gives Node.IsPlain g.expressionBody := by
  refine .bind .atKeyword fun _ _ => .ite hg.lambda ?_
  refine .bind hg.disjunctionBody fun first hfirst => ?_
  refine .bind (.optional (Q := fun c : Node × Node => c.1.IsPlain ∧ c.2.IsPlain) ?_)
    fun condition hcondition => ?_
  · exact .bind .keyword fun _ _ => .bind hg.disjunctionBody fun _ ht => .bind .keyword fun _ _ =>
      .bind hg.expression fun _ he => .pure ⟨ht, he⟩
  · cases condition with
    | nil => exact .pure hfirst
    | cons c cs =>
      obtain ⟨⟨ht, he⟩, -⟩ := List.forall_mem_cons.mp hcondition
      exact .pure (by simp [ht, hfirst, he])

/-! ## Patterns -/

omit hg in
theorem softKeyword {text : Text} : Gives (fun _ => True) (softKeyword text) :=
  .exactly (by decide)

omit hg in
theorem plainEnd : Gives (fun _ => True) plainEnd :=
  .bind .atOp fun _ _ => .bind .atOp fun _ _ => .bind .atOp fun _ _ => .imp .guard fun _ _ => trivial

omit hg in
theorem captureName : Gives (fun _ => True) captureName :=
  .bind (.ofClass (by decide)) fun _ _ => .bind .guard fun _ _ => plainEnd

omit hg in
theorem dottedName : Gives (fun x => x.1.IsPlain) g.dottedName := by
  refine .bind .ident fun first _ => ?_
  refine .bind (.many (.bind .op fun _ _ => .ident) _) fun attributes _ => .pure ?_
  have hfold : ∀ (ids : List Text) (n : Node), n.IsPlain → (ids.foldl Node.attribute n).IsPlain := by
    intro ids
    induction ids with
    | nil => exact fun _ hn => hn
    | cons _ _ ih => exact fun n hn => ih _ (by simpa using hn)
  exact hfold attributes _ (by simp)

omit hg in
theorem numberPattern : Gives Node.IsPlain numberPattern := by
  refine .bind .opIf fun negative _ => .bind (.ofClass (by decide)) fun _ _ => ?_
  have hnumber : (if negative then Node.plain .unaryOp [.constant] else .constant).IsPlain := by
    split_ifs <;> simp [constant]
  refine .bind .atOp fun _ _ => .bind .atOp fun _ _ => .ite ?_ (.pure hnumber)
  refine .bind (.ofClass (by decide)) fun _ _ => .bind (.ofClass (by decide)) fun _ _ => ?_
  refine .bind .guard fun _ _ => .pure ?_
  exact isPlain_plain.mpr (arePlain_cons.mpr ⟨hnumber, by simp [constant]⟩)

theorem literalPattern : Gives Node.IsPlain g.literalPattern := by
  refine .bind .peek fun l _ => ?_
  have hnumber : Gives Node.IsPlain (do return .plain .matchValue [← Grammar.numberPattern]) :=
    .bind numberPattern fun _ hn => .pure (by simpa using hn)
  cases l.cls with
  | string => exact .bind hg.strings fun _ hn => .pure (by simpa using hn)
  | keyword => exact .bind .guard fun _ _ => .bind (.ofClass (by decide)) fun _ _ => .pure (by simp)
  | _ => exact hnumber

theorem literalKey : Gives Node.IsPlain g.literalKey := by
  refine .bind hg.literalPattern fun n hn => ?_
  split
  · exact .pure (by simpa using hn)
  · exact .pure (by simp [constant])

omit hg in
theorem starPattern : Gives Node.IsPlain starPattern := by
  refine .bind .op fun _ _ => .bind (.ofClass (by decide)) fun _ _ => .ite ?_ (.pure (by simp))
  exact .bind plainEnd fun _ _ => .pure (by simp)

theorem sequenceItem : Gives Node.IsPlain g.sequenceItem :=
  .bind .atOp fun _ _ => .ite starPattern hg.pattern

theorem openSequence : Gives Node.IsPlain g.openSequence :=
  .bind hg.sequenceItem fun _ hfirst => .bind .op fun _ _ =>
    .bind (.commaItems hg.sequenceItem _) fun _ hothers =>
      .pure (isPlain_plain.mpr (arePlain_cons.mpr ⟨hfirst, hothers⟩))

theorem groupPattern : Gives Node.IsPlain g.groupPattern := by
  refine .bind .op fun _ _ => .bind .opIf fun _ _ => .ite (.pure (by simp)) ?_
  refine .bind hg.sequenceItem fun first hfirst => .bind .opIf fun _ _ => .ite ?_ ?_
  · refine .bind (.commaItems hg.sequenceItem _) fun others hothers => .bind .op fun _ _ => .pure ?_
    exact isPlain_plain.mpr (arePlain_cons.mpr ⟨hfirst, hothers⟩)
  · split
    · exact .failure
    · exact .bind .op fun _ _ => .pure hfirst

theorem bracketPattern : Gives Node.IsPlain g.bracketPattern :=
  .bind .op fun _ _ => .bind (.commaItems hg.sequenceItem _) fun _ hitems => .bind .op fun _ _ =>
    .pure (isPlain_plain.mpr hitems)

theorem mappingEntry : Gives (fun e => e.1.IsPlain ∧ e.2.IsPlain) g.mappingEntry := by
  refine .bind .peek fun l _ => .ite ?_ ?_
  · refine .bind dottedName fun n hn => .bind .guard fun _ _ => .bind (.pure hn) fun key hkey => ?_
    exact .bind .op fun _ _ => .bind hg.pattern fun _ hp => .pure ⟨hkey, hp⟩
  · refine .bind hg.literalKey fun key hkey => ?_
    exact .bind .op fun _ _ => .bind hg.pattern fun _ hp => .pure ⟨hkey, hp⟩

theorem commaEntries : ∀ fuel, Gives (fun es => ∀ e ∈ es, e.1.IsPlain ∧ e.2.IsPlain)
    (mappingPattern.commaEntries g fuel)
  | 0 => .failure
  | fuel + 1 => by
    refine .bind .opIf fun _ _ => .ite (.pure (by simp)) ?_
    refine .bind .opIf fun _ _ => .ite ?_ ?_
    · exact .bind captureName fun _ _ => .bind .opIf fun _ _ => .bind .op fun _ _ => .pure (by simp)
    refine .bind hg.mappingEntry fun entry hentry => .bind .opIf fun _ _ => .ite ?_ ?_
    · exact .bind (commaEntries fuel) fun _ hes => .pure (List.forall_mem_cons.mpr ⟨hentry, hes⟩)
    · exact .bind .op fun _ _ => .pure (by simpa using hentry)

theorem mappingPattern : Gives Node.IsPlain g.mappingPattern := by
  refine .bind .op fun _ _ => .bind (hg.commaEntries _) fun entries hentries => .pure ?_
  refine isPlain_plain.mpr (arePlain_append.mpr ⟨?_, ?_⟩)
  all_goals
    intro n hn
    obtain ⟨e, he, rfl⟩ := List.mem_map.mp hn
  exacts [(hentries e he).1, (hentries e he).2]

theorem classArguments : ∀ (fuel : Nat) (keywords : Bool),
    Gives Node.ArePlain (g.classArguments fuel keywords)
  | 0, _ => .failure
  | fuel + 1, keywords => by
    refine .bind .opIf fun _ _ => .ite (.pure arePlain_nil) ?_
    refine .bind .atNameAnd fun byKeyword _ => .ite (.bind .ident fun _ _ => .bind .op fun _ _ => ?_) ?_
    all_goals
      refine .bind .guard fun _ _ => .bind hg.pattern fun p hp => .bind .opIf fun _ _ => .ite ?_ ?_
      · exact .bind (classArguments fuel _) fun _ hps => .pure (arePlain_cons.mpr ⟨hp, hps⟩)
      · exact .bind .op fun _ _ => .pure (by simpa using hp)

theorem namePattern : Gives Node.IsPlain g.namePattern := by
  refine .bind (.take? (by decide)) fun _ _ => .ite (.pure (by simp)) ?_
  refine .bind dottedName fun n hn => .bind .opIf fun _ _ => .ite ?_ ?_
  · refine .bind (hg.classArguments _ _) fun ps hps => .pure ?_
    exact isPlain_plain.mpr (arePlain_cons.mpr ⟨hn, hps⟩)
  · refine .bind plainEnd fun _ _ => .ite (.pure (by simp)) (.pure ?_)
    simpa using hn

theorem closedPattern : Gives Node.IsPlain g.closedPattern :=
  .bind .peek fun _ _ => .ite hg.namePattern (.ite hg.groupPattern (.ite hg.bracketPattern
    (.ite hg.mappingPattern hg.literalPattern)))

theorem patternBody : Gives Node.IsPlain g.patternBody := by
  refine .bind hg.closedPattern fun first hfirst => ?_
  refine .bind (.many (.bind .op fun _ _ => hg.closedPattern) _) fun others hothers => ?_
  have hchoice : (if others.isEmpty then first else .plain .matchOr (first :: others)).IsPlain := by
    split_ifs
    · exact hfirst
    · exact isPlain_plain.mpr (arePlain_cons.mpr ⟨hfirst, hothers⟩)
  refine .bind .keywordIf fun _ _ => .ite ?_ (.pure hchoice)
  exact .bind captureName fun _ _ => .pure (by simpa using hchoice)

theorem casePattern : Gives Node.IsPlain g.casePattern := .orElse hg.openSequence hg.pattern

/-! ## Simple statements -/

theorem assignment : ∀ (fuel : Nat) {found : List Node}, Node.ArePlain found →
    Gives Node.IsPlain (g.assignment fuel found)
  | 0, _, _ => .failure
  | fuel + 1, found, hfound => by
    have hplain : ∀ n : Node, n.IsPlain → (Node.plain .assign (found.reverse ++ [n])).IsPlain := by
      intro n hn
      refine isPlain_plain.mpr (arePlain_append.mpr ⟨?_, by simpa using hn⟩)
      exact fun m hm => hfound m (List.mem_reverse.mp hm)
    refine .bind .atKeyword fun _ _ => .ite (.bind hg.yielding fun y hy => .pure (hplain y hy)) ?_
    refine .bind hg.expressions fun e he => .bind .opIf fun _ _ => .ite ?_ (.pure (hplain e he))
    exact .bind .guard fun _ _ => assignment fuel (arePlain_cons.mpr ⟨he, hfound⟩)

theorem expressionStatement : Gives Node.IsPlain g.expressionStatement := by
  refine .bind hg.expressions fun first hfirst => .bind .opIf fun _ _ => .ite ?_ ?_
  · refine .bind .guard fun _ _ => .bind hg.expression fun annotation hannotation => ?_
    refine .bind .opIf fun _ _ => .ifItem hg.value fun value hvalue => .pure ?_
    simp [hfirst, hannotation, hvalue]
  refine .bind .opIf fun _ _ => .ite ?_ ?_
  · exact .bind .guard fun _ _ => hg.assignment _ (by simpa using hfirst)
  refine .bind (.optional .opOf) fun _ _ => .ite (.pure (by simpa using hfirst)) ?_
  exact .bind .guard fun _ _ => .bind hg.value fun _ hvalue => .pure (by simp [hfirst, hvalue])

omit hg in
theorem moduleName : Gives (fun _ => True) g.moduleName :=
  .bind .ident fun _ _ => .bind (.many (.bind .op fun _ _ => .ident) _) fun _ _ => .pure trivial

omit hg in
theorem newName : Gives Node.IsPlain newName :=
  .bind .keywordIf fun _ _ => .ite (.bind .ident fun _ _ => .pure (by simp)) (.pure (by simp))

omit hg in
theorem importStatement : Gives Node.IsPlain g.importStatement :=
  .bind .keyword fun _ _ => .bind (.sepByComma (.bind moduleName fun _ _ => newName) _) fun _ hns =>
    .pure (isPlain_plain.mpr hns)

omit hg in
theorem importedName : Gives Node.IsPlain importFromStatement.importedName :=
  .bind .ident fun _ _ => newName

omit hg in
theorem importFromStatement : Gives Node.IsPlain g.importFromStatement := by
  have hnames : Gives Node.IsPlain (do
      let _ ← keyword "import"
      if ← opIf "*" then return .plain .importFrom [.plain .importAlias []]
      else if ← opIf "(" then
        let first ← importFromStatement.importedName
        let others ← if ← opIf "," then commaItems importFromStatement.importedName g.fuel else pure []
        let _ ← op ")"
        return .plain .importFrom (first :: others)
      else return .plain .importFrom (← sepByComma importFromStatement.importedName g.fuel)) := by
    refine .bind .keyword fun _ _ => .bind .opIf fun _ _ => .ite (.pure (by simp)) ?_
    refine .bind .opIf fun _ _ => .ite ?_ ?_
    · refine .bind importedName fun first hfirst => .bind .opIf fun _ _ => ?_
      refine .ifItems (.commaItems importedName _) fun others hothers => .bind .op fun _ _ => .pure ?_
      exact isPlain_plain.mpr (arePlain_cons.mpr ⟨hfirst, hothers⟩)
    · exact .bind (.sepByComma importedName _) fun _ hns => .pure (isPlain_plain.mpr hns)
  refine .bind .keyword fun _ _ => .bind (.many .opOf _) fun _ _ => .ite ?_ ?_
  · exact .bind moduleName fun _ _ => hnames
  · exact .bind (.optional moduleName) fun _ _ => hnames

theorem deleteTarget : Gives Node.IsPlain g.deleteTarget :=
  .bind hg.primary fun _ ht => .bind .guard fun _ _ => .pure ht

theorem deleteStatement : Gives Node.IsPlain g.deleteStatement := by
  refine .bind .keyword fun _ _ => .bind hg.deleteTarget fun first hfirst => .bind .opIf fun _ _ => ?_
  refine .ifItems (.commaItems hg.deleteTarget _) fun others hothers => .pure ?_
  exact isPlain_plain.mpr (arePlain_cons.mpr ⟨hfirst, hothers⟩)

theorem raiseStatement : Gives Node.IsPlain g.raiseStatement := by
  refine .bind .keyword fun _ _ => .bind (.optional hg.expression) fun es hes => ?_
  cases es with
  | nil => exact .pure (by simp)
  | cons e es =>
    obtain ⟨he, -⟩ := List.forall_mem_cons.mp hes
    exact .bind .keywordIf fun _ _ => .ifItem hg.expression fun ns hns => .pure (by simp [he, hns])

theorem assertStatement : Gives Node.IsPlain g.assertStatement := by
  refine .bind .keyword fun _ _ => .bind hg.expression fun test htest => .bind .opIf fun _ _ => ?_
  exact .ifItem hg.expression fun message hmessage => .pure (by simp [htest, hmessage])

omit hg in
theorem bareStatement {kind : Kind} : Gives Node.IsPlain (bareStatement kind) :=
  .bind (.ofClass (by decide)) fun _ _ => .pure (by simp)

omit hg in
theorem scopeStatement {kind : Kind} : Gives Node.IsPlain (g.scopeStatement kind) :=
  .bind (.ofClass (by decide)) fun _ _ => .bind (.sepByComma .ident _) fun _ _ => .pure (by simp)

theorem simpleStatement : Gives Node.IsPlain g.simpleStatement := by
  refine .bind .peek fun _ _ => .ite hg.expressionStatement (.ite ?_ ?_)
  · exact .bind (.ofClass (by decide)) fun _ _ => .bind (.optional hg.expressions) fun _ hns =>
      .pure (isPlain_plain.mpr hns)
  refine .ite importStatement (.ite importFromStatement (.ite hg.raiseStatement
    (.ite bareStatement (.ite hg.deleteStatement (.ite ?_ ?_)))))
  · exact .bind hg.yielding fun _ hn => .pure (by simpa using hn)
  exact .ite hg.assertStatement (.ite bareStatement (.ite bareStatement
    (.ite scopeStatement (.ite scopeStatement hg.expressionStatement))))

/-! ## The floor above -/

theorem above : g.above.IsPlain where
  expression := hg.expressionBody
  disjunction := hg.disjunctionBody
  inversion := hg.inversionBody
  bitwiseOr := hg.bitwiseOrBody
  factor := hg.factorBody
  primary := hg.primaryBody
  pattern := hg.patternBody

end IsPlain

end HouseStyle.Syntax.Grammar
