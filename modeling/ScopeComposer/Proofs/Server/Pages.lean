import ScopeComposer.Proofs.Compose.Determinacy
import ScopeComposer.Proofs.Paging.Arguments
import ScopeComposer.Server.Page

/-!
# Following the pages of a collection

A caller that wants all of a collection asks for its first page, and then after the end of every
page for the next one as long as there is one. What a page calls its end is a text of the server,
and as a cursor a placeholder among these texts stands for no cursor. So a caller moves on from a
page just if the end of the page is not a placeholder; after a placeholder the first page is asked
for again.
-/

namespace ScopeComposer

open Graphql

/-! ## The next page -/

/-- The window of the page after one, if there is one. -/
def PageInfo.nextWindow? (p : PageInfo) (size : PageSize) : Option PageWindow :=
  p.nextCursor?.map fun c => ⟨size, .ofString c⟩

namespace PageWindow

variable {size : PageSize} {c : String}

/-- A placeholder leads back to the first page. -/
theorem mk_ofString_of_placeholder (size : PageSize) (h : c ∈ cursorPlaceholders) :
    PageWindow.mk size (.ofString c) = first size := by
  have hnone : Cursor.ofString c = .none := dif_pos h
  rw [hnone, first]

theorem arguments_ofString (size : PageSize) (h : c ∉ cursorPlaceholders) :
    (PageWindow.mk size (.ofString c)).arguments =
      "first: " ++ size.text ++ ", after: " ++ literal c := by
  rw [arguments, Cursor.argument, Cursor.value_ofString h]

theorem arguments_first (size : PageSize) :
    (first size).arguments = "first: " ++ size.text ++ ", after: " ++ "null" := rfl

theorem literal_ne_null (c : String) : literal c ≠ "null" := by
  intro h
  have hquote : (literal c).toList.head? = some '"' := by
    rw [literal, String.toList_ofList, literalChars]
    rfl
  rw [h] at hquote
  exact absurd hquote (by decide)

/-- A window says where its page starts just if the text for that is no placeholder. -/
theorem arguments_ofString_iff : (PageWindow.mk size (.ofString c)).arguments =
    "first: " ++ size.text ++ ", after: " ++ literal c ↔ c ∉ cursorPlaceholders := by
  refine ⟨fun h hplaceholder => ?_, arguments_ofString size⟩
  rw [mk_ofString_of_placeholder size hplaceholder, arguments_first, String.append_right_inj] at h
  exact literal_ne_null c h.symm

end PageWindow

/-! ## All pages -/

/-- The window that is asked for in every step, counted from zero, as long as there is a next page;
`pages` is what the answers say in turn. -/
def PageInfo.requested (size : PageSize) (pages : Nat → PageInfo) : Nat → Option PageWindow
  | 0 => some (.first size)
  | n + 1 => (requested size pages n).bind fun _ => (pages n).nextWindow? size

namespace PageInfo

variable {size : PageSize} {pages : Nat → PageInfo}

/-- Every window but the first is the one that the page before it leads to. -/
theorem requested_succ {n : Nat} {w : PageWindow} (h : requested size pages (n + 1) = some w) :
    ∃ c, (pages n).nextCursor? = some c ∧ w = ⟨size, .ofString c⟩ := by
  obtain ⟨-, -, hnext⟩ := Option.bind_eq_some_iff.1 h
  obtain ⟨c, hc, rfl⟩ := Option.map_eq_some_iff.1 hnext
  exact ⟨c, hc, rfl⟩

end PageInfo

/-! ## Documents -/

namespace RepositoryConfig

/-- A single request resolves to its own window. -/
theorem window?_of_single {scope : RepositoryScope} (hscope : scope ∈ pagedScopes)
    (w : PageWindow) : (ResolvedScopes.resolve [.ofWindow scope w]).window? scope = some w := by
  have hall : Tag.isAll scope = false := by
    revert scope
    decide
  have hwindows : ResolvedScopes.windowsFor [.ofWindow scope w] (· == scope) = [w] := by
    rw [ResolvedScopes.windowsFor_cons]
    simp [ScopeRequest.ofWindow, ScopeRequest.window, ResolvedScopes.windowsFor]
  rw [ResolvedScopes.resolve_window?, if_neg (by simp [hall]), hwindows]
  rfl

/-- The window of a collection is read off the document that asks for nothing else. -/
theorem window_of_document {repository : RepositoryAddress} {scope : RepositoryScope}
    (hscope : scope ∈ pagedScopes) {w w' : PageWindow} {options : DocumentOptions}
    (h : repositoryDocument repository (ofScopes [.ofWindow scope w]) options =
      repositoryDocument repository (ofScopes [.ofWindow scope w']) options) : w = w' := by
  have hparse := parse?_of_tokens
    (tokens?_repositoryDocument repository (ofScopes [.ofWindow scope w]) options)
  rw [h, parse?_of_tokens (tokens?_repositoryDocument repository _ options)] at hparse
  obtain ⟨-, hfields⟩ := Selection.node.inj (List.cons.inj (Option.some.inj hparse)).1
  have hwindow : (ResolvedScopes.resolve [.ofWindow scope w']).window? scope =
      (ResolvedScopes.resolve [.ofWindow scope w]).window? scope :=
    (bodyFields_inj hfields).2.1 scope hscope
  rw [window?_of_single hscope, window?_of_single hscope] at hwindow
  exact (Option.some.inj hwindow).symm

end RepositoryConfig

/-! ## Moving on -/

/-- After a page that has a next one, the window that is asked for starts after the literal of the
text that the page gave for its end, unless that is a placeholder. So as long as no page ends with a
placeholder, all windows but the first start after such a literal, and a collection of a repository
is asked for with other documents than that for its first page. -/
theorem PageInfo.nextWindow_moves_on :
    (∀ (p : PageInfo) (c : String) (size : PageSize), p.nextCursor? = some c →
      p.nextWindow? size = some ⟨size, .ofString c⟩ ∧
        ((PageWindow.mk size (.ofString c)).arguments =
          "first: " ++ size.text ++ ", after: " ++ literal c ∧ literal c ≠ "null" ↔
            c ∉ cursorPlaceholders)) ∧
    ∀ (size : PageSize) (pages : Nat → PageInfo),
      (∀ n, ∀ c ∈ (pages n).nextCursor?, c ∉ cursorPlaceholders) →
      ∀ n w, requested size pages (n + 1) = some w →
        (∃ c, (pages n).nextCursor? = some c ∧
          w.arguments = "first: " ++ size.text ++ ", after: " ++ literal c) ∧
        w.arguments ≠ (PageWindow.first size).arguments ∧
        ∀ (repository : RepositoryAddress) (options : DocumentOptions),
          ∀ scope ∈ RepositoryConfig.pagedScopes,
            repositoryDocument repository (.ofScopes [.ofWindow scope w]) options ≠
              repositoryDocument repository (.ofScopes [.ofWindow scope (.first size)])
                options := by
  refine ⟨fun p c size hc => ⟨?_, ?_⟩, fun size pages hpages n w hw => ?_⟩
  · rw [nextWindow?, hc, Option.map_some]
  · rw [PageWindow.arguments_ofString_iff, and_iff_left (PageWindow.literal_ne_null c)]
  · obtain ⟨c, hc, rfl⟩ := requested_succ hw
    have hplain := hpages n c hc
    have harguments := PageWindow.arguments_ofString size hplain
    have hfirst : (PageWindow.mk size (.ofString c)).arguments ≠
        (PageWindow.first size).arguments := by
      rw [harguments, PageWindow.arguments_first, Ne, String.append_right_inj]
      exact PageWindow.literal_ne_null c
    refine ⟨⟨c, hc, harguments⟩, hfirst, fun repository options scope hscope h => ?_⟩
    exact hfirst (congrArg PageWindow.arguments (RepositoryConfig.window_of_document hscope h))

/-- Two pages that have a next one, and the last page. -/
theorem PageInfo.nextWindow_moves_on_to_last :
    let pages : Nat → PageInfo := fun n => if n = 0 then ⟨true, some "a"⟩
      else if n = 1 then ⟨true, some "NULL"⟩ else ⟨false, some "c"⟩
    (∀ n, ∀ c ∈ (pages n).nextCursor?, c ∉ cursorPlaceholders) ∧
    (pages 1).nextCursor? = some "NULL" ∧
    (PageWindow.mk .one (.ofString "NULL")).arguments = "first: 1, after: \"NULL\"" ∧
    requested .one pages 2 = some ⟨.one, .ofString "NULL"⟩ ∧
    (PageWindow.mk .one (.ofString "NULL")).arguments ≠ (PageWindow.first .one).arguments ∧
    requested .one pages 3 = none := by
  intro pages
  have hpages : ∀ n, ∀ c ∈ (pages n).nextCursor?, c ∉ cursorPlaceholders := by
    intro n c hc
    match n with
    | 0 =>
      obtain rfl : "a" = c := Option.some.inj hc
      decide
    | 1 =>
      obtain rfl : "NULL" = c := Option.some.inj hc
      decide
    | n + 2 => cases hc
  have hlast : requested .one pages 2 = some ⟨.one, .ofString "NULL"⟩ := rfl
  obtain ⟨hnext, hall⟩ := nextWindow_moves_on
  exact ⟨hpages, rfl, ((hnext (pages 1) "NULL" .one rfl).2.2 (by decide)).1, hlast,
    (hall .one pages hpages 1 _ hlast).2.1, rfl⟩

/-- A server may call the end of a page `null`. A caller that follows such pages asks for the first
one over and over. -/
theorem PageInfo.requested_first_of_placeholder :
    let p : PageInfo := ⟨true, some "null"⟩
    PageInfo.decoder.run (.obj [("hasNextPage", .bool true), ("endCursor", .str "null")]) = .ok p ∧
    p.nextCursor? = some "null" ∧
    (PageWindow.mk .one (.ofString "null")).arguments ≠ "first: 1, after: " ++ literal "null" ∧
    (PageWindow.mk .one (.ofString "null")).arguments = "first: 1, after: null" ∧
    ∀ n, requested .one (fun _ => p) n = some (.first .one) := by
  intro p
  refine ⟨rfl, rfl, by decide, by decide, fun n => ?_⟩
  induction n with
  | zero => rfl
  | succ n ih =>
    rw [requested, ih]
    rfl

end ScopeComposer
