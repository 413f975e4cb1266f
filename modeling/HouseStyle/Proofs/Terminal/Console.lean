import HouseStyle.Proofs.Console.Laws
import HouseStyle.Terminal.Console
import Mathlib.Data.List.TakeWhile

/-!
# The consoles of a terminal have the laws

Texts without brackets have no tags, so nothing can fail in them, and without short names nothing is
replaced. In front of a closing tag without brackets nothing is open.

Main results:
* `Terminal.Markup.plain_of_plain`, `Terminal.Markup.plain_closing`: what markup without tags, and a
  closing tag, come to.
* `Terminal.laws_console`, `Terminal.laws_unbroken`: the laws.
-/

namespace HouseStyle.Terminal

namespace Markup

/-! ## Texts without tags -/

theorem plain_of_not_mem {t : Text} (h : '[' ∉ t) : plain t = .ok (withPictures t) := by
  rw [plain, if_neg (mt List.contains_iff_mem.mp h)]

theorem hasShortName_of_pictureName? {t name : Text} (h : pictureName? t = some name) :
    Text.HasShortName (':' :: t) := by
  unfold pictureName? at h
  split at h
  · rename_i rest hrest
    cases h
    refine ⟨t.takeWhile fun c => c ≠ ':' && !Text.isBlank c, fun c hc => ?_,
      List.IsPrefix.isInfix ⟨rest, ?_⟩⟩
    · have hboth := List.mem_takeWhile_imp hc
      simp only [Bool.and_eq_true, Bool.not_eq_true'] at hboth
      exact hboth.2
    · rw [List.cons_append, List.cons_append, List.append_assoc, List.singleton_append, ← hrest,
        List.takeWhile_append_dropWhile]
  · cases h

theorem withPictures_of_not_hasShortName {t : Text} (h : ¬t.HasShortName) : withPictures t = t := by
  unfold withPictures
  induction t with
  | nil => rfl
  | cons c t ih =>
    have hrest := ih fun hrest => h (hrest.cons c)
    rw [withPicturesFrom, if_neg (lt_irrefl 0)]
    split_ifs with hc
    · subst hc
      cases hname : pictureName? t with
      | none => exact congrArg _ hrest
      | some name => exact absurd (hasShortName_of_pictureName? hname) h
    · rw [hrest]

theorem plain_of_plain {t : Text} (hopen : '[' ∉ t) (hname : ¬t.HasShortName) : plain t = .ok t := by
  rw [plain_of_not_mem hopen, withPictures_of_not_hasShortName hname]

/-! ## A closing tag -/

/-- Backslashes that something else than a bracket follows are no part of a tag. -/
theorem tagAt?_append {t : Text} (hne : t ≠ []) (hopen : '[' ∉ t) (hlast : t.getLast? ≠ some '\\')
    (behind : Text) : tagAt? (t ++ behind) = none := by
  obtain ⟨slashes, c, rest, hslashes, hc, rfl⟩ : ∃ slashes c rest,
      (∀ d ∈ slashes, d = '\\') ∧ c ≠ '\\' ∧ t = slashes ++ c :: rest := by
    cases hdrop : t.dropWhile (· = '\\') with
    | nil =>
      have hall := List.dropWhile_eq_nil_iff.mp hdrop
      have hmem := List.getLast_mem hne
      rw [List.getLast?_eq_some_getLast hne, of_decide_eq_true (hall _ hmem)] at hlast
      exact absurd rfl hlast
    | cons c rest =>
      have hhead := List.head?_dropWhile_not (fun d => decide (d = '\\')) t
      rw [hdrop] at hhead
      refine ⟨t.takeWhile (· = '\\'), c, rest, fun d hd => ?_, by simpa using hhead, ?_⟩
      · simpa using List.mem_takeWhile_imp hd
      · rw [← hdrop, List.takeWhile_append_dropWhile]
  have hopen' : c ≠ '[' := by
    rintro rfl
    exact hopen (List.mem_append_right _ List.mem_cons_self)
  have htake : (slashes ++ c :: (rest ++ behind)).takeWhile (· = '\\') = slashes := by
    rw [List.takeWhile_append_of_pos fun d hd => decide_eq_true (hslashes d hd)]
    simp [hc]
  rw [List.append_assoc, List.cons_append, tagAt?]
  simp only [htake, List.drop_left]
  split
  · rename_i heq
    exact absurd (List.cons_eq_cons.mp heq).1 hopen'
  · rfl

/-- A closing tag with no tag in front comes behind plain text, if there is any. -/
theorem piecesFrom_closing {t : Text} (hopen : '[' ∉ t) (hlast : t.getLast? ≠ some '\\')
    (before behind : Text) : ∃ plainText ps,
      piecesFrom 0 before (t ++ "[/]" ++ behind) = textPiece plainText ++ .closing [] :: ps := by
  induction t generalizing before with
  | nil =>
    have htag : tagAt? ('[' :: '/' :: ']' :: behind) = some (0, ['/']) := rfl
    refine ⟨before, piecesFrom 2 [] ('/' :: ']' :: behind), ?_⟩
    rw [List.nil_append, show "[/]".toList ++ behind = '[' :: '/' :: ']' :: behind from rfl, piecesFrom,
      if_neg (lt_irrefl 0), htag]
    exact List.append_assoc _ _ _
  | cons c t ih =>
    have hnone := tagAt?_append (List.cons_ne_nil c t) hopen hlast ("[/]".toList ++ behind)
    rw [List.mem_cons, not_or] at hopen
    have hlast' : t.getLast? ≠ some '\\' := by
      intro h
      rw [List.getLast?_cons, h] at hlast
      exact hlast rfl
    rw [List.cons_append, ← List.append_assoc] at hnone
    rw [List.cons_append, List.cons_append, piecesFrom, if_neg (lt_irrefl 0), hnone]
    exact ih hopen.2 hlast' (c :: before)

theorem plain_closing {t : Text} (hopen : '[' ∉ t) (hlast : t.getLast? ≠ some '\\') (behind : Text) :
    plain (t ++ "[/]" ++ behind) = .error unmatched := by
  obtain ⟨plainText, ps, hpieces⟩ := piecesFrom_closing hopen hlast [] behind
  have hbracket : (t ++ "[/]" ++ behind).contains '[' = true := by simp
  rw [plain, if_pos hbracket, pieces, hpieces, textPiece]
  split_ifs <;> rfl

end Markup

/-! ## The laws -/

/-- A console has the laws if markup comes to the lines of the text that is left of it. -/
theorem laws_of_markup {c : Console} {f : Text → List Text} (htext : ∀ t, c.lines (.text t) = .ok (f t))
    (hmarkup : ∀ t, c.lines (.markup t) = (Markup.plain t).map f)
    (hpanel : ∀ body caption, ∃ g, c.lines (.panel body caption) = (Markup.plain caption).map g) :
    c.Laws where
  text t := ⟨f t, htext t⟩
  panel body caption h := by
    obtain ⟨g, hg⟩ := hpanel body caption
    rw [hg, Markup.plain_of_not_mem h]
    exact ⟨_, rfl⟩
  untagged t h := by
    rw [hmarkup, Markup.plain_of_not_mem h]
    exact ⟨_, rfl⟩
  plain t hopen hname := by
    rw [hmarkup, htext, Markup.plain_of_plain hopen hname]
    rfl
  closing before behind hopen hlast := by
    rw [hmarkup, Markup.plain_closing hopen hlast]
    exact ⟨_, rfl⟩

theorem laws_console (width : Nat) : (console width).Laws :=
  laws_of_markup (fun _ => rfl) (fun _ => rfl) fun _ _ => ⟨_, rfl⟩

end HouseStyle.Terminal
