import Mathlib.Data.List.TakeWhile
import ScopeComposer.Proofs.Text.Entries
import ScopeComposer.Target.Repository

/-!
# Shorthands written and read again

A shorthand is trimmed before the slashes at its end are dropped, not after. So the owner that is
read never begins with a blank character, but the name may end with one that stood in front of such
a slash, and then the written form of the repository is not a shorthand of it: reading it trims the
name, and finds no repository at all if the name is blank.
-/

namespace ScopeComposer

open Text

namespace Text

/-- The characters up to the last one that is not blank. -/
def trimEndChars (cs : List Char) : List Char := (dropBlank cs.reverse).reverse

theorem mem_of_mem_trimEndChars {cs : List Char} {c : Char} (h : c ∈ trimEndChars cs) : c ∈ cs := by
  have hsuffix : dropBlank cs.reverse <:+ cs.reverse := List.dropWhile_suffix _
  exact List.mem_reverse.1 (hsuffix.mem (List.mem_reverse.1 h))

theorem trimEndChars_eq_nil_iff {cs : List Char} :
    trimEndChars cs = [] ↔ ∀ c ∈ cs, isBlank c = true := by
  unfold trimEndChars
  rw [List.reverse_eq_nil_iff, dropBlank_eq_nil_iff]
  simp only [List.mem_reverse]

/-- Nothing is taken away just if there is no blank character at the end. -/
theorem trimEndChars_eq_self_iff {cs : List Char} :
    trimEndChars cs = cs ↔ ∀ c ∈ cs.getLast?, isBlank c = false := by
  cases cs using List.reverseRecOn with
  | nil => simp [trimEndChars, dropBlank]
  | append_singleton front c =>
    cases hc : isBlank c with
    | false => simp [trimEndChars, dropBlank, hc]
    | true =>
      have hshort : (trimEndChars (front ++ [c])).length ≤ front.length := by
        have hdrop := (List.dropWhile_suffix isBlank (l := front.reverse)).length_le
        simpa [trimEndChars, dropBlank, hc] using hdrop
      have hne : trimEndChars (front ++ [c]) ≠ front ++ [c] := by
        intro heq
        rw [heq, List.length_append, List.length_singleton] at hshort
        omega
      simp [hne, hc]

/-- In a text that does not begin with a blank character, only what follows a character that is not
blank is trimmed. -/
theorem trimChars_append {front : List Char} {c : Char} (hfront : dropBlank front = front)
    (hc : isBlank c = false) (cs : List Char) :
    trimChars (front ++ c :: cs) = front ++ c :: trimEndChars cs := by
  have hstart : dropBlank (front ++ c :: cs) = front ++ c :: cs := by
    rw [dropBlank_append hc, hfront]
  have hend : dropBlank (front ++ c :: cs).reverse =
      dropBlank cs.reverse ++ c :: front.reverse := by
    rw [List.reverse_append, List.reverse_cons, List.append_assoc, List.singleton_append,
      dropBlank_append hc]
  unfold trimChars trimEndChars
  rw [hstart, hend]
  simp

end Text

namespace RepositoryAddress

/-- The owner and the name of a repository can be told apart in its shorthand. -/
structure HasParts (r : RepositoryAddress) : Prop where
  /-- There is an owner. -/
  owner_ne : r.owner ≠ ""
  /-- There is a name. -/
  name_ne : r.name ≠ ""
  /-- The owner holds no slash. -/
  owner_slash : '/' ∉ r.owner.toList
  /-- The name holds no slash. -/
  name_slash : '/' ∉ r.name.toList

variable {input : String} {r : RepositoryAddress}

theorem toList_text (r : RepositoryAddress) :
    r.text.toList = r.owner.toList ++ '/' :: r.name.toList := by
  simp [text]

theorem getLast?_text (h : r.HasParts) : r.text.toList.getLast? = r.name.toList.getLast? := by
  have hname : r.name.toList ≠ [] := by simpa using h.name_ne
  rw [toList_text, List.getLast?_append, List.getLast?_cons]
  cases hlast : r.name.toList.getLast? with
  | none => exact absurd (List.getLast?_eq_none_iff.1 hlast) hname
  | some c => rfl

/-- The written form of a repository does not end with a slash. -/
theorem HasParts.ne_slash (h : r.HasParts) : ∀ c ∈ r.text.toList.getLast?, c ≠ '/' := by
  rw [getLast?_text h]
  rintro c hc rfl
  exact h.name_slash (List.mem_of_getLast? hc)

/-! ## Slashes at the end -/

theorem dropSlashes_append {cs : List Char} (h : ∀ c ∈ cs.getLast?, c ≠ '/') (n : Nat) :
    dropSlashes (cs ++ List.replicate n '/') = cs := by
  have hrest : List.dropWhile (· == '/') cs.reverse = cs.reverse := by
    cases cs using List.reverseRecOn with
    | nil => rfl
    | append_singleton front c =>
      have hc : c ≠ '/' := h c (by simp)
      rw [List.reverse_append, List.reverse_singleton, List.singleton_append]
      exact List.dropWhile_cons_of_neg (by simpa using hc)
  unfold dropSlashes
  rw [List.reverse_append, List.reverse_replicate, List.dropWhile_append_of_pos (by simp), hrest,
    List.reverse_reverse]

theorem exists_dropSlashes (cs : List Char) :
    ∃ n, cs = dropSlashes cs ++ List.replicate n '/' := by
  refine ⟨(cs.reverse.takeWhile (· == '/')).length, ?_⟩
  have hslashes : cs.reverse.takeWhile (· == '/') =
      List.replicate (cs.reverse.takeWhile (· == '/')).length '/' :=
    List.eq_replicate_of_mem fun c hc => by simpa using List.mem_takeWhile_imp hc
  have hsplit := List.takeWhile_append_dropWhile (p := (· == '/')) (l := cs.reverse)
  rw [hslashes] at hsplit
  unfold dropSlashes
  rw [← List.reverse_replicate, ← List.reverse_append, hsplit, List.reverse_reverse]

/-- A shorthand is the written form of the repository, with slashes after it and blank characters
around the whole. -/
theorem ofShorthand?_eq_some_iff : ofShorthand? input = some r ↔
    r.HasParts ∧ ∃ n, trimChars input.toList = r.text.toList ++ List.replicate n '/' := by
  constructor
  · intro h
    obtain ⟨n, hn⟩ := exists_dropSlashes (trimChars input.toList)
    unfold ofShorthand? at h
    by_cases hslash : '/' ∈ dropSlashes (trimChars input.toList)
    · obtain ⟨owner, name, hparts, howner⟩ := List.eq_append_cons_of_mem hslash
      rw [hparts, cutChars_append howner] at h
      dsimp only at h
      split at h
      · next hvalid =>
        obtain rfl := Option.some.inj h
        refine ⟨⟨by simpa using hvalid.1, by simpa using hvalid.2.1, by simpa using howner,
          by simpa using hvalid.2.2⟩, n, ?_⟩
        rw [toList_text, String.toList_ofList, String.toList_ofList, ← hparts]
        exact hn
      · cases h
    · rw [cutChars_of_not_mem hslash] at h
      cases h
  · rintro ⟨hparts, n, htrim⟩
    have hvalid : r.owner.toList ≠ [] ∧ r.name.toList ≠ [] ∧ '/' ∉ r.name.toList :=
      ⟨by simpa using hparts.owner_ne, by simpa using hparts.name_ne, hparts.name_slash⟩
    unfold ofShorthand?
    rw [htrim, dropSlashes_append hparts.ne_slash, toList_text, cutChars_append hparts.owner_slash]
    dsimp only
    rw [if_pos hvalid, String.ofList_toList, String.ofList_toList]

/-! ## Reading again -/

/-- The owner that is read begins with a character that is not blank. -/
theorem dropBlank_owner (h : ofShorthand? input = some r) :
    dropBlank r.owner.toList = r.owner.toList ∧ isBlankText r.owner = false := by
  obtain ⟨hparts, n, htrim⟩ := ofShorthand?_eq_some_iff.1 h
  have hstart := dropBlank_trimChars input.toList
  rw [htrim, toList_text] at hstart
  cases howner : r.owner.toList with
  | nil => exact absurd (by simpa using howner) hparts.owner_ne
  | cons c cs =>
    have hc : isBlank c = false := by
      have hhead := List.head?_dropWhile_not isBlank (trimChars input.toList)
      unfold dropBlank at hstart
      rw [htrim, toList_text, hstart, howner] at hhead
      simpa using hhead
    exact ⟨List.dropWhile_cons_of_neg (by simp [hc]), by simp [isBlankText, howner, hc]⟩

/-- Reading what was written trims the name at its end, and finds nothing if the name is blank. -/
theorem ofShorthand?_text (h : ofShorthand? input = some r) : ofShorthand? r.text =
    if isBlankText r.name then none
    else some ⟨r.owner, String.ofList (trimEndChars r.name.toList)⟩ := by
  obtain ⟨hparts, -⟩ := ofShorthand?_eq_some_iff.1 h
  have htrim : trimChars r.text.toList =
      r.owner.toList ++ '/' :: trimEndChars r.name.toList := by
    rw [toList_text]
    exact trimChars_append (dropBlank_owner h).1 (by decide) _
  by_cases hblank : trimEndChars r.name.toList = []
  · have hname : isBlankText r.name = true :=
      List.all_eq_true.2 (trimEndChars_eq_nil_iff.1 hblank)
    have howner : ∀ c ∈ r.owner.toList.getLast?, c ≠ '/' := by
      rintro c hc rfl
      exact hparts.owner_slash (List.mem_of_getLast? hc)
    have hdrop : dropSlashes (r.owner.toList ++ ['/']) = r.owner.toList :=
      dropSlashes_append howner 1
    rw [if_pos hname, ofShorthand?, htrim, hblank, hdrop, cutChars_of_not_mem hparts.owner_slash]
  · have hname : ¬ isBlankText r.name = true := fun hall =>
      hblank (trimEndChars_eq_nil_iff.2 (List.all_eq_true.1 hall))
    rw [if_neg hname]
    refine ofShorthand?_eq_some_iff.2 ⟨⟨hparts.owner_ne, ?_, hparts.owner_slash, ?_⟩, 0, ?_⟩
    · simpa using hblank
    · rw [String.toList_ofList]
      exact fun hslash => hparts.name_slash (mem_of_mem_trimEndChars hslash)
    · rw [htrim, toList_text, String.toList_ofList]
      exact (List.append_nil _).symm

/-- A shorthand that has a blank character in front of the slashes at its end. -/
def LeavesBlank (input : String) : Prop :=
  ∃ front c n, trimChars input.toList = front ++ c :: List.replicate n '/' ∧ isBlank c = true

theorem leavesBlank_iff (h : ofShorthand? input = some r) :
    LeavesBlank input ↔ ∃ c ∈ r.name.toList.getLast?, isBlank c = true := by
  obtain ⟨hparts, n, htrim⟩ := ofShorthand?_eq_some_iff.1 h
  rw [← getLast?_text hparts]
  constructor
  · rintro ⟨front, c, m, hfront, hc⟩
    have hend : ∀ d ∈ (front ++ [c]).getLast?, d ≠ '/' := by
      rintro d hd rfl
      obtain rfl : c = '/' := by simpa using hd
      exact absurd hc (by decide)
    have htext : r.text.toList = front ++ [c] := by
      rw [← dropSlashes_append hparts.ne_slash n, ← htrim, hfront, ← List.singleton_append,
        ← List.append_assoc, dropSlashes_append hend]
    exact ⟨c, by simp [htext], hc⟩
  · rintro ⟨c, hc, hblank⟩
    obtain ⟨front, hfront⟩ := List.getLast?_eq_some_iff.1 hc
    refine ⟨front, c, n, ?_, hblank⟩
    rw [htrim, hfront, List.append_assoc, List.singleton_append]

theorem ofShorthand_eq_ok_iff : ofShorthand input = .ok r ↔ ofShorthand? input = some r := by
  unfold ofShorthand
  cases ofShorthand? input with
  | none => exact ⟨nofun, nofun⟩
  | some r' =>
    exact ⟨fun h => congrArg some (Except.ok.inj h), fun h => congrArg _ (Option.some.inj h)⟩

/-- What is read of a shorthand has an owner that is not blank, and no slash in its parts. Its name
is not blank and its written form is a shorthand of it, just if no blank character was left in front
of slashes at the end. -/
theorem shorthand_read_again (h : ofShorthand input = .ok r) :
    isBlankText r.owner = false ∧ '/' ∉ r.owner.toList ∧ '/' ∉ r.name.toList ∧
      (isBlankText r.name = false ∧ ofShorthand r.text = .ok r ↔ ¬ LeavesBlank input) := by
  have hread := ofShorthand_eq_ok_iff.1 h
  obtain ⟨hparts, -⟩ := ofShorthand?_eq_some_iff.1 hread
  refine ⟨(dropBlank_owner hread).2, hparts.owner_slash, hparts.name_slash, ?_⟩
  have hkept : trimEndChars r.name.toList = r.name.toList ↔ ¬ LeavesBlank input := by
    rw [leavesBlank_iff hread, trimEndChars_eq_self_iff]
    simp only [not_exists, not_and, Bool.not_eq_true]
  rw [ofShorthand_eq_ok_iff, ofShorthand?_text hread, ← hkept]
  constructor
  · rintro ⟨hname, hagain⟩
    rw [if_neg (by simp [hname])] at hagain
    have hsame : String.ofList (trimEndChars r.name.toList) = r.name :=
      congrArg RepositoryAddress.name (Option.some.inj hagain)
    rw [← String.toList_ofList (l := trimEndChars r.name.toList), hsame]
  · intro hsame
    have hname : ¬ isBlankText r.name = true := by
      intro hall
      have hnone := trimEndChars_eq_nil_iff.2 (List.all_eq_true.1 hall)
      rw [hsame] at hnone
      exact hparts.name_ne (by simpa using hnone)
    rw [if_neg hname, hsame, String.ofList_toList]
    exact ⟨by simpa using hname, rfl⟩

/-- Blank characters around the whole and inside the parts, and slashes at the end. -/
theorem shorthand_read_again_of_inner_blanks :
    ofShorthand "\u3000a / b c// " = .ok ⟨"a ", " b c"⟩ ∧
      ofShorthand "a / b c" = .ok ⟨"a ", " b c"⟩ ∧ ¬ LeavesBlank "\u3000a / b c// " := by
  have hread : ofShorthand "\u3000a / b c// " = .ok ⟨"a ", " b c"⟩ := by decide
  have hagain : ofShorthand "a / b c" = .ok ⟨"a ", " b c"⟩ := by decide
  obtain ⟨-, -, -, hiff⟩ := shorthand_read_again hread
  exact ⟨hread, hagain, hiff.1 ⟨by decide, hagain⟩⟩

/-- A blank name is read where a slash stands behind it, and is lost when the repository is written
and read again. -/
theorem not_shorthand_of_blank_name :
    ofShorthand "a/ /" = .ok ⟨"a", " "⟩ ∧ isBlankText " " = true ∧
      ofShorthand (text ⟨"a", " "⟩) = .error (shorthandError "a/ ") := by
  decide

end RepositoryAddress

end ScopeComposer
