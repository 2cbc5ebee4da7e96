import LayerMarkup.Json.Reader

/-!
# Surrogate pairs of a JSON text

No text holds half of a surrogate pair, so a JSON text is read only if every half in its strings has
the other one next to it (`IsPaired`).  Only an escape can stand for a half, so a text without a
backslash is paired (`isPaired_of_no_backslash`).
-/

namespace LayerMarkup.Json

/-- In no string of the text is half of a surrogate pair alone. -/
def IsPaired (text : String) : Prop := ∀ found ∈ tokens 0 text.toList, found.token.lone? = none

/-- A text without a byte order mark is read by folding its tokens. -/
theorem read_of_tokens {text : String} {found : List Located} {value : Json}
    (hmark : (text.toList.head? == some (Char.ofNat 0xFEFF)) = false) (hpaired : IsPaired text)
    (htokens : tokens 0 text.toList = found) (hvalue : valueOf found text.toList.length = .ok value) :
    read text = .ok value := by
  have hnone : found.findSome? (·.token.lone?) = none :=
    List.findSome?_eq_none_iff.mpr fun located hlocated => hpaired located (htokens ▸ hlocated)
  unfold read
  simp only [hmark, htokens, Bool.false_eq_true, if_false, hvalue, hnone]

/-- What is wrong with a text in which all halves are paired is another matter. -/
theorem read_ne_loneSurrogate {text : String} (hpaired : IsPaired text) (offset : Nat) :
    read text ≠ .error (.loneSurrogate offset) := by
  have hnone : (tokens 0 text.toList).findSome? (·.token.lone?) = none :=
    List.findSome?_eq_none_iff.mpr hpaired
  unfold read
  simp only [hnone]
  split
  · simp only [ReadError.locate, ne_eq, Except.error.injEq, reduceCtorEq, not_false_eq_true]
  · simp only [ne_eq, reduceCtorEq, not_false_eq_true]

/-- Without an escape there is no half in a string. -/
theorem lone_scanString {start here : Nat} {read result : StringRead} {after : Nat} {cs : List Char}
    (hplain : '\\' ∉ cs) (hscan : scanString start here read cs = .ok (result, after)) :
    result.lone = read.lone := by
  fun_induction scanString start here read cs with
  | case1 | case3 | case8 => cases hscan
  | case2 here read rest =>
    cases hscan
    rfl
  -- A backslash starts an escape or ends the text.
  | case4 | case5 | case6 | case7 => exact absurd List.mem_cons_self hplain
  | case9 here read c rest hquote hend hescape hsimple hcontrol ih =>
    exact (ih (fun hmem => hplain (List.mem_cons_of_mem c hmem)) hscan).trans rfl

theorem lone?_scanNumber {offset taken : Nat} {token : Token} {cs : List Char}
    (hscan : scanNumber offset cs = some (token, taken)) : token.lone? = none := by
  unfold scanNumber at hscan
  grind [Token.lone?]

theorem lone?_scanToken {c : Char} {rest : List Char} (hplain : '\\' ∉ rest) (offset : Nat) :
    (scanToken offset c rest).1.lone? = none := by
  unfold scanToken
  split
  -- A mark of one character, a string, or a word or number.
  iterate 6 exact rfl
  · split
    · rename_i hscan
      exact lone_scanString hplain hscan
    · rfl
  · split
    · rename_i hword
      obtain ⟨found, -, hfound⟩ := Option.map_eq_some_iff.mp hword
      cases hfound
      rfl
    · split
      · rename_i hnumber
        exact lone?_scanNumber hnumber
      · rfl

theorem isPaired_of_no_backslash {text : String} (hplain : '\\' ∉ text.toList) : IsPaired text := by
  unfold IsPaired
  generalize text.toList = cs at hplain
  generalize 0 = offset
  induction offset, cs using tokens.induct with
  | case1 offset => simp only [tokens, List.not_mem_nil, false_imp_iff, implies_true]
  | case2 offset c rest hspace ih =>
    rw [tokens, if_pos hspace]
    exact ih fun hmem => hplain (List.mem_cons_of_mem c hmem)
  | case3 offset c rest hspace token more hscan ih =>
    have hrest : '\\' ∉ rest := fun hmem => hplain (List.mem_cons_of_mem c hmem)
    have hfirst := lone?_scanToken (c := c) hrest offset
    simp only [hscan] at hfirst
    simp only [tokens, hspace, hscan, Bool.false_eq_true, if_false, List.forall_mem_cons]
    exact ⟨hfirst, ih fun hmem => hrest (List.mem_of_mem_drop hmem)⟩

end LayerMarkup.Json
