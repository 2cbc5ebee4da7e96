import LayerMarkup.Proofs.Markup.Characters

/-!
# Character references

Who reads markup replaces references such as `&amp;` by the characters that they stand for.  A text
comes back from this as it was, since all its ampersands are escaped (`decode_escapeText`).  In a
value only the double quote is escaped, and an ampersand that the value has stays as it is: a value
comes back with the references of its own replaced (`decode_escapeValue`), so it comes back as it
was if it has none.  Two values are written the same if they differ in nothing but how their quotes
are put (`escapeValue_eq_iff`).

Which references there are besides those that escaping uses is left open.

* `References` — a way to read references.
* `MarkupReferences` — it knows those that escaping uses.
-/

namespace LayerMarkup

/-- A character that can stand inside a reference. -/
def isReferenceChar (c : Char) : Bool := c ≠ '&' && c ≠ '"'

/-- The characters up to the next ampersand or double quote.  A reference does not go beyond
them. -/
def behindAmpersand (cs : List Char) : List Char := cs.takeWhile isReferenceChar

theorem behindAmpersand_append {name : List Char} (hname : name.all isReferenceChar = true)
    (rest : List Char) : behindAmpersand (name ++ rest) = name ++ behindAmpersand rest :=
  List.takeWhile_append_of_pos (List.all_eq_true.mp hname)

/-- A way to read references. -/
structure References where
  /-- The text that stands for what the characters behind an ampersand begin with, and the number of
  characters taken, if they begin with a reference. -/
  read : List Char → Option (List Char × Nat)
  taken_le : ∀ {cs text n}, read cs = some (text, n) → n ≤ cs.length

/-- The names of the references that escaping uses. -/
def quotName : List Char := ['q', 'u', 'o', 't', ';']

def ampName : List Char := ['a', 'm', 'p', ';']

def ltName : List Char := ['l', 't', ';']

def gtName : List Char := ['g', 't', ';']

namespace References

variable {refs : References} {name cs rest : List Char} {c : Char} {n : Nat}

/-- A character of markup as text, and how many of the characters behind it are taken with it. -/
def step (refs : References) (c : Char) (rest : List Char) : List Char × Nat :=
  if c = '&' then (refs.read (behindAmpersand rest)).getD ([c], 0) else ([c], 0)

/-- Markup as text, where the first `n` characters were taken already. -/
def decodeAfter (refs : References) : Nat → List Char → List Char
  | _, [] => []
  | n + 1, _ :: rest => refs.decodeAfter n rest
  | 0, c :: rest => (refs.step c rest).1 ++ refs.decodeAfter (refs.step c rest).2 rest

/-- The text of markup. -/
def decode (refs : References) (s : String) : String := String.ofList (refs.decodeAfter 0 s.toList)

/-- The reference of this name stands for a character, whatever comes behind it. -/
def Knows (refs : References) (name : List Char) (c : Char) : Prop :=
  ∀ rest, refs.read (name ++ rest) = some ([c], name.length)

/-- The reader that knows these names and no others. -/
def ofNames (names : List (List Char × Char)) : References where
  read cs := (names.find? fun entry => entry.1.isPrefixOf cs).map fun entry =>
    ([entry.2], entry.1.length)
  taken_le := by
    intro cs text n hread
    obtain ⟨entry, hfound, hentry⟩ := Option.map_eq_some_iff.mp hread
    have hbegins : entry.1.isPrefixOf cs = true :=
      List.find?_some (p := fun entry : List Char × Char => entry.1.isPrefixOf cs) hfound
    cases hentry
    exact (List.isPrefixOf_iff_prefix.mp hbegins).length_le

theorem read_ofNames (names : List (List Char × Char)) (cs : List Char) :
    (ofNames names).read cs =
      (names.find? fun entry => entry.1.isPrefixOf cs).map fun entry =>
        ([entry.2], entry.1.length) := rfl

theorem knows_ofNames_cons (name : List Char) (c : Char) (names : List (List Char × Char)) :
    (ofNames ((name, c) :: names)).Knows name c := by
  intro rest
  have hbegins : name.isPrefixOf (name ++ rest) = true :=
    List.isPrefixOf_iff_prefix.mpr (List.prefix_append _ _)
  rw [read_ofNames, List.find?_cons, hbegins]
  rfl

/-- The reader that knows the reference of the double quote and no other. -/
def quoteOnly : References := ofNames [(quotName, '"')]

theorem step_of_ne (hc : c ≠ '&') : refs.step c rest = ([c], 0) := if_neg hc

theorem taken_step_le (refs : References) (c : Char) (rest : List Char) :
    (refs.step c rest).2 ≤ (behindAmpersand rest).length := by
  unfold step
  split
  · cases hread : refs.read (behindAmpersand rest) with
    | none => exact Nat.zero_le _
    | some found => exact refs.taken_le hread
  · exact Nat.zero_le _

theorem decodeAfter_cons_of_ne (hc : c ≠ '&') :
    refs.decodeAfter 0 (c :: rest) = c :: refs.decodeAfter 0 rest := by
  rw [decodeAfter, step_of_ne hc]
  rfl

theorem decodeAfter_length_append (taken rest : List Char) :
    refs.decodeAfter taken.length (taken ++ rest) = refs.decodeAfter 0 rest := by
  induction taken with
  | nil => rfl
  | cons c taken ih => exact ih

/-- A known reference is read as its character. -/
theorem decodeAfter_of_knows (hknows : refs.Knows name c) (hname : name.all isReferenceChar = true) :
    refs.decodeAfter 0 ('&' :: (name ++ rest)) = c :: refs.decodeAfter 0 rest := by
  have hstep : refs.step '&' (name ++ rest) = ([c], name.length) := by
    rw [step, if_pos rfl, behindAmpersand_append hname, hknows, Option.getD_some]
  rw [decodeAfter, hstep, decodeAfter_length_append]
  rfl

/-- Without ampersands nothing is replaced. -/
theorem decodeAfter_of_notMem (hcs : '&' ∉ cs) : refs.decodeAfter 0 cs = cs := by
  induction cs with
  | nil => rfl
  | cons c cs ih =>
    rw [List.mem_cons, not_or] at hcs
    rw [decodeAfter_cons_of_ne (Ne.symm hcs.1), ih hcs.2]

section Value

open Attribute (escapeChar escapeChar_of_ne escapeValue toList_escapeValue)

theorem behindAmpersand_escaped (cs : List Char) :
    behindAmpersand (cs.flatMap escapeChar) = behindAmpersand cs := by
  induction cs with
  | nil => rfl
  | cons c cs ih =>
    by_cases hquote : c = '"'
    · subst hquote
      rfl
    · rw [List.flatMap_cons, escapeChar_of_ne hquote, List.singleton_append, behindAmpersand,
        List.takeWhile_cons, ← behindAmpersand, ih, behindAmpersand, behindAmpersand,
        List.takeWhile_cons]

/-- Escaping the quotes of a value leaves the references that it has of its own. -/
theorem decodeAfter_escaped (hquot : refs.Knows quotName '"')
    (htaken : n ≤ (behindAmpersand cs).length) :
    refs.decodeAfter n (cs.flatMap escapeChar) = refs.decodeAfter n cs := by
  induction cs generalizing n with
  | nil => rfl
  | cons c cs ih =>
    by_cases hquote : c = '"'
    · -- No reference goes beyond the quote, so this is where reading starts again.
      subst hquote
      have hstart : n = 0 := Nat.le_zero.mp htaken
      subst hstart
      rw [decodeAfter_cons_of_ne (by decide), ← ih (Nat.zero_le _)]
      exact decodeAfter_of_knows hquot (by decide)
    · rw [List.flatMap_cons, escapeChar_of_ne hquote, List.singleton_append]
      cases n with
      | succ n =>
        refine ih ?_
        by_cases hand : c = '&'
        · subst hand
          cases htaken
        · rw [behindAmpersand,
            List.takeWhile_cons_of_pos (by simp [isReferenceChar, hand, hquote]),
            List.length_cons] at htaken
          exact Nat.le_of_succ_le_succ htaken
      | zero =>
        have hstep : refs.step c (cs.flatMap escapeChar) = refs.step c cs := by
          rw [step, step, behindAmpersand_escaped]
        rw [decodeAfter, decodeAfter, hstep, ih (refs.taken_step_le c cs)]

/-- A value comes back with the references of its own replaced. -/
theorem decode_escapeValue (hquot : refs.Knows quotName '"') (value : String) :
    refs.decode (escapeValue value) = refs.decode value := by
  rw [decode, toList_escapeValue, decodeAfter_escaped hquot (Nat.zero_le _)]
  rfl

theorem quoteOnly_knows : quoteOnly.Knows quotName '"' := knows_ofNames_cons _ _ _

theorem step_quoteOnly_of_begins (hbegins : quotName <+: cs) : quoteOnly.step '&' cs = (['"'], 5) := by
  obtain ⟨rest, rfl⟩ := hbegins
  rw [step, if_pos rfl, behindAmpersand_append (by decide), quoteOnly_knows]
  rfl

theorem step_quoteOnly_of_other (hother : ¬ (c = '&' ∧ quotName <+: cs)) :
    quoteOnly.step c cs = ([c], 0) := by
  unfold step
  split
  · rename_i hand
    have hnone : quoteOnly.read (behindAmpersand cs) = none := by
      refine Option.map_eq_none_iff.mpr (List.find?_eq_none.mpr ?_)
      rw [List.forall_mem_singleton, List.isPrefixOf_iff_prefix]
      exact fun hbegins => hother ⟨hand, hbegins.trans (List.takeWhile_prefix _)⟩
    rw [hnone, Option.getD_none]
  · rfl

/-- Whether a quote is put as such or as its reference makes no difference to what is written. -/
theorem escaped_decodeAfter_quoteOnly (n : Nat) (cs : List Char) :
    (quoteOnly.decodeAfter n cs).flatMap escapeChar = (cs.drop n).flatMap escapeChar := by
  induction cs generalizing n with
  | nil => simp [decodeAfter]
  | cons c cs ih =>
    cases n with
    | succ n => exact ih n
    | zero =>
      rw [List.drop_zero, decodeAfter, List.flatMap_append, ih]
      by_cases hquot : c = '&' ∧ quotName <+: cs
      · obtain ⟨rfl, hbegins⟩ := hquot
        rw [step_quoteOnly_of_begins hbegins]
        obtain ⟨rest, rfl⟩ := hbegins
        rfl
      · rw [step_quoteOnly_of_other hquot]
        simp

/-- Two values are written the same if they are the same up to quotes that are put as references. -/
theorem escapeValue_eq_iff {s t : String} :
    escapeValue s = escapeValue t ↔ quoteOnly.decode s = quoteOnly.decode t := by
  constructor
  · intro hsame
    rw [← decode_escapeValue quoteOnly_knows s, hsame, decode_escapeValue quoteOnly_knows]
  · have hescaped : ∀ u, escapeValue (quoteOnly.decode u) = escapeValue u := by
      intro u
      rw [escapeValue, decode, String.toList_ofList, escaped_decodeAfter_quoteOnly, List.drop_zero]
      rfl
    intro hsame
    rw [← hescaped s, hsame, hescaped]

end Value

end References

/-- A way to read references that knows those that escaping uses. -/
structure MarkupReferences extends References where
  knows_quot : toReferences.Knows quotName '"'
  knows_amp : toReferences.Knows ampName '&'
  knows_lt : toReferences.Knows ltName '<'
  knows_gt : toReferences.Knows gtName '>'

namespace MarkupReferences

open Attribute (escapeValue quote_notMem_escapeValue)

/-- The reader that knows the references that escaping uses and no others. -/
def predefined : MarkupReferences where
  toReferences := .ofNames [(quotName, '"'), (ampName, '&'), (ltName, '<'), (gtName, '>')]
  knows_quot := References.knows_ofNames_cons _ _ _
  knows_amp _ := rfl
  knows_lt _ := rfl
  knows_gt _ := rfl

/-- An escaped text comes back as it was. -/
theorem decode_escapeText (refs : MarkupReferences) (text : String) :
    refs.decode (Tag.escapeText text) = text := by
  have hchars : ∀ cs : List Char, refs.decodeAfter 0 (cs.flatMap Tag.escapeChar) = cs := by
    intro cs
    induction cs with
    | nil => rfl
    | cons c cs ih =>
      rw [List.flatMap_cons]
      rcases Tag.escapeChar_cases c with ⟨rfl, h⟩ | ⟨rfl, h⟩ | ⟨rfl, h⟩ | ⟨hand, -, h⟩
      · rw [h]
        exact (References.decodeAfter_of_knows refs.knows_amp (by decide)).trans (congrArg _ ih)
      · rw [h]
        exact (References.decodeAfter_of_knows refs.knows_lt (by decide)).trans (congrArg _ ih)
      · rw [h]
        exact (References.decodeAfter_of_knows refs.knows_gt (by decide)).trans (congrArg _ ih)
      · rw [h, List.singleton_append, References.decodeAfter_cons_of_ne hand, ih]
  rw [References.decode, Tag.toList_escapeText, hchars, String.ofList_toList]

/-- An attribute is its key and its value between double quotes.  Whatever references a reader of
markup knows, the value comes back with its own references replaced, so as it was if it has no
ampersand; and two values are written the same exactly if they are the same up to quotes put as
references.  A text always comes back. -/
theorem decode_render (refs : MarkupReferences) (key : String) (isBoolean : Bool) (value : String) :
    let written (v : String) : String := Attribute.render { key, value := v, isBoolean }
    (∃ quoted : String,
      written value = (if isBoolean then ":" else "") ++ key ++ "=\"" ++ quoted ++ "\"" ∧
        '"' ∉ quoted.toList ∧ refs.decode quoted = refs.decode value ∧
          ('&' ∉ value.toList → refs.decode quoted = value)) ∧
      (∀ other, written other = written value ↔
        References.quoteOnly.decode other = References.quoteOnly.decode value) ∧
      ∀ text, refs.decode (Tag.escapeText text) = text := by
  intro written
  have hwritten : ∀ v, written v =
      (if isBoolean then ":" else "") ++ key ++ "=\"" ++ escapeValue v ++ "\"" := by
    intro v
    cases isBoolean <;> simp [written, Attribute.render]
  have hdecoded := References.decode_escapeValue refs.knows_quot value
  refine ⟨⟨escapeValue value, hwritten value, quote_notMem_escapeValue value, hdecoded,
    fun hplain => ?_⟩,
    fun other => ?_, decode_escapeText refs⟩
  · rw [hdecoded, References.decode, References.decodeAfter_of_notMem hplain, String.ofList_toList]
  · rw [hwritten, hwritten, ← References.escapeValue_eq_iff, String.append_left_inj,
      String.append_right_inj]

/-- A value with quotes and no ampersand comes back from its attribute. -/
theorem decode_render_sayHi :
    ∃ quoted,
      Attribute.render { key := "label", value := "Say \"hi\"" } = "label=\"" ++ quoted ++ "\"" ∧
      predefined.decode quoted = "Say \"hi\"" := by
  obtain ⟨⟨quoted, hwritten, -, -, hback⟩, -⟩ := decode_render predefined "label" false "Say \"hi\""
  exact ⟨quoted, hwritten, hback (by decide)⟩

/-- A value that spells the reference of the quote is written as a quote is, and read as one. -/
theorem render_spelledQuote :
    Attribute.render { key := "label", value := "&quot;" } = "label=\"&quot;\"" ∧
      Attribute.render { key := "label", value := "\"" } = "label=\"&quot;\"" ∧
      ∀ refs : MarkupReferences, refs.decode "&quot;" = "\"" ∧ refs.decode "&quot;" ≠ "&quot;" := by
  refine ⟨by decide, by decide, fun refs => ?_⟩
  have hread : refs.decode "&quot;" = "\"" := by
    show String.ofList (refs.decodeAfter 0 ('&' :: (quotName ++ []))) = "\""
    rw [References.decodeAfter_of_knows refs.knows_quot (by decide)]
    rfl
  exact ⟨hread, hread ▸ by decide⟩

end MarkupReferences

end LayerMarkup
