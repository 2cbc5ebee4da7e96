import LayerMarkup.Name
import LayerMarkup.Proofs.Text.Lowercase

/-!
# The passes over a name

A name is gone through several times before its words are run together, but one reading will do
(`pascalAfter`): it goes by the letter or digit just before, and gives what the passes give
(`toList_pascalCase_eq`).  The laws of tags are laws of this reading.
-/

namespace LayerMarkup.Name

variable {p c : Char} {cs piece : List Char}

theorem toNat_lt_of_isTagChar (hc : isTagChar c = true) : c.toNat < 128 := by
  simp only [isTagChar, isSmall, isCapital, isNumeral, Bool.or_eq_true, Bool.and_eq_true,
    decide_eq_true_eq, Char.le_def, UInt32.le_iff_toNat_le] at hc
  show c.val.toNat < 128
  rcases hc with (⟨-, hc⟩ | ⟨-, hc⟩) | ⟨-, hc⟩
  · exact Nat.lt_of_le_of_lt hc (by decide)
  · exact Nat.lt_of_le_of_lt hc (by decide)
  · exact Nat.lt_of_le_of_lt hc (by decide)

theorem isSeparator_of_isTagChar (hc : isTagChar c = true) : isSeparator c = false :=
  Text.forall_ascii (P := fun c => isTagChar c = true → isSeparator c = false) (by decide)
    (toNat_lt_of_isTagChar hc) hc

theorem isTagChar_of_isSmall (hc : isSmall c = true) : isTagChar c = true := by
  rw [isTagChar, hc, Bool.true_or, Bool.true_or]

theorem isCapital_eq_false_of_isSmall (hc : isSmall c = true) : isCapital c = false :=
  Text.forall_ascii (P := fun c => isSmall c = true → isCapital c = false) (by decide)
    (toNat_lt_of_isTagChar (isTagChar_of_isSmall hc)) hc

theorem isSmall_eq_false_of_isCapital (hc : isCapital c = true) : isSmall c = false :=
  Bool.eq_false_iff.mpr fun hsmall => by simp [isCapital_eq_false_of_isSmall hsmall] at hc

/-- A word begins at `c`, where `previous` is the tag character just before it, if any. -/
def beginsWord (previous : Option Char) (c : Char) : Bool :=
  match previous with
  | none => true
  | some p => isSmall p && isCapital c

/-- The words of a name run together in one reading, which goes on after `previous`. -/
def pascalAfter (previous : Option Char) : List Char → List Char
  | [] => []
  | c :: rest =>
    if isTagChar c then
      (if beginsWord previous c then c.toUpper else c.toLower) :: pascalAfter (some c) rest
    else pascalAfter none rest

/-- Whether a space goes between two characters does not depend on what stands around them. -/
theorem spaceCapitals_cons_cons (a b : Char) (rest : List Char) :
    spaceCapitals (a :: b :: rest) =
      if isSmall a && isCapital b then a :: ' ' :: spaceCapitals (b :: rest)
      else a :: spaceCapitals (b :: rest) := by
  rw [spaceCapitals]
  split
  · rename_i hspace
    have hb := isSmall_eq_false_of_isCapital (Bool.and_eq_true _ _ ▸ hspace).2
    cases rest with
    | nil => rfl
    | cons d rest => rw [spaceCapitals, hb, Bool.false_and, if_neg Bool.false_ne_true]
  · rfl

/-- The tokens run together, where `piece` is what has been read of the first one. -/
def runTogether (piece cs : List Char) : List Char :=
  (((cs.splitOnP isSeparator).modifyHead (piece ++ ·)).filter (!·.isEmpty)).flatMap capitalized

theorem runTogether_empty (cs : List Char) : runTogether [] cs = (tokens cs).flatMap capitalized := by
  have hsame : (cs.splitOnP isSeparator).modifyHead ([] ++ ·) = cs.splitOnP isSeparator :=
    congrFun List.modifyHead_id _
  rw [runTogether, tokens, hsame]

/-- An empty token has no part in what is run together. -/
theorem flatMap_capitalized_cons (token : List Char) (tokens : List (List Char)) :
    ((token :: tokens).filter (!·.isEmpty)).flatMap capitalized =
      capitalized token ++ (tokens.filter (!·.isEmpty)).flatMap capitalized := by
  cases token with
  | nil => rfl
  | cons c rest => rfl

theorem runTogether_nil (piece : List Char) : runTogether piece [] = capitalized piece := by
  rw [runTogether, List.splitOnP_nil, List.modifyHead_cons, flatMap_capitalized_cons, List.append_nil]
  exact List.append_nil _

theorem runTogether_space (piece cs : List Char) :
    runTogether piece (' ' :: cs) = capitalized piece ++ runTogether [] cs := by
  rw [runTogether, List.splitOnP_cons_eq_if_modifyHead, if_pos (by decide), List.modifyHead_cons,
    flatMap_capitalized_cons, List.append_nil, runTogether_empty, tokens]

theorem runTogether_cons (hc : isTagChar c = true) (piece cs : List Char) :
    runTogether piece (c :: cs) = runTogether (piece ++ [c]) cs := by
  rw [runTogether, runTogether, List.splitOnP_cons_eq_if_modifyHead, isSeparator_of_isTagChar hc,
    if_neg Bool.false_ne_true, List.modifyHead_modifyHead]
  simp only [Function.comp_def, List.append_assoc, List.singleton_append]

theorem capitalized_append (hpiece : piece ≠ []) (c : Char) :
    capitalized (piece ++ [c]) = capitalized piece ++ [c.toLower] := by
  cases piece with
  | nil => exact absurd rfl hpiece
  | cons d rest => rw [List.cons_append, capitalized, capitalized, List.map_append]; rfl

/-- The passes and the reading agree from any place on: after a tag character, whatever piece of a
token is before it, and after anything else, be it marked by a space or not. -/
theorem runTogether_eq (cs : List Char) :
    (∀ p piece, isTagChar p = true →
      runTogether piece (spaceCapitals (p :: spaceRuns false cs)) =
        capitalized (piece ++ [p]) ++ pascalAfter (some p) cs) ∧
    ∀ inRun, runTogether [] (spaceCapitals (spaceRuns inRun cs)) = pascalAfter none cs := by
  induction cs with
  | nil =>
    refine ⟨fun p piece hp => ?_, fun inRun => rfl⟩
    show runTogether piece [p] = _
    rw [runTogether_cons hp, runTogether_nil, pascalAfter, List.append_nil]
  | cons c cs ih =>
    obtain ⟨hafter, hfresh⟩ := ih
    by_cases hc : isTagChar c = true
    · have hrun : ∀ inRun, spaceRuns inRun (c :: cs) = c :: spaceRuns false cs := fun inRun => by
        rw [spaceRuns, if_pos hc]
      have hword : runTogether [] (spaceCapitals (c :: spaceRuns false cs)) =
          c.toUpper :: pascalAfter (some c) cs := hafter c [] hc
      refine ⟨fun p piece hp => ?_, fun inRun => ?_⟩
      · rw [hrun, spaceCapitals_cons_cons, pascalAfter, if_pos hc, beginsWord]
        split
        · rw [runTogether_cons hp, runTogether_space, hword]
        · rw [runTogether_cons hp, hafter c (piece ++ [p]) hc, capitalized_append (by simp),
            List.append_assoc]
          rfl
      · rw [hrun, hword, pascalAfter, if_pos hc]
        rfl
    · have hmarked :
          spaceCapitals (' ' :: spaceRuns true cs) = ' ' :: spaceCapitals (spaceRuns true cs) := by
        cases spaceRuns true cs with
        | nil => rfl
        | cons d rest => rfl
      refine ⟨fun p piece hp => ?_, fun inRun => ?_⟩
      · have hplain : (isSmall p && isCapital ' ') = false := Bool.and_false _
        rw [spaceRuns, if_neg hc, if_neg Bool.false_ne_true, spaceCapitals_cons_cons, hplain,
          if_neg Bool.false_ne_true, hmarked, runTogether_cons hp, runTogether_space, hfresh,
          pascalAfter, if_neg hc]
      · rw [spaceRuns, if_neg hc, pascalAfter, if_neg hc]
        cases inRun with
        | true => exact hfresh true
        | false =>
          rw [if_neg Bool.false_ne_true, hmarked, runTogether_space, hfresh]
          rfl

/-- One reading gives what the passes over a name give. -/
theorem toList_pascalCase_eq (name : String) :
    (pascalCase name).toList = pascalAfter none name.toList := by
  rw [pascalCase, String.toList_ofList, ← runTogether_empty]
  exact (runTogether_eq name.toList).2 false

end LayerMarkup.Name
