import ScopeComposer.Proofs.Compose.ReadBack
import ScopeComposer.Proofs.Json.Printed

/-!
# Requests are read back from their text

The text of every part of a request, compact or indented, is read and decoded as that part: all of
what is written for a request is looked at when it is read, and nothing of it nests deep. The page
sizes as received in the body of a project may be any values that can be read again themselves.
-/

namespace ScopeComposer

open Json

variable {room : Nat}

/-! ## Windows and scopes -/

/-- A page size is at most 100 and so an integer that is read as one, whatever the shape. -/
theorem PageSize.fits (size : PageSize) {shape : Shape} : size.toJson.Fits shape room := by
  have hmax := size.le_hundred
  have hsize : (100 : Nat) < UInt64.size := by decide
  exact .nat (by omega)

theorem Cursor.fits (c : Cursor) {shape : Shape} : c.toJson.Fits shape room :=
  .ofOption _ _ fun s _ => .str s

theorem PageWindow.fits (w : PageWindow) : w.toJson.Fits decoder.shape (room + 1) :=
  .record (.cons rfl w.pageSize.fits (.cons rfl w.continueAfter.fits .nil))

section Tag

variable {S : Type} [DecidableEq S] [Tag S]

theorem Tag.fits (t : S) {shape : Shape} : (Tag.toJson t).Fits shape room := .str _

/-- All three fields of a request are fields of its decoder. -/
theorem ScopeRequest.fits (r : ScopeRequest S) :
    r.toJson.Fits (decoder (S := S)).shape (room + 1) :=
  .record (.cons rfl (Tag.fits r.scope)
    (.cons rfl r.pageSize.fits (.cons rfl r.continueAfter.fits .nil)))

end Tag

/-! ## Configurations -/

/-- The number of a milestone stands in an object with one member, which is in canonical form. -/
theorem MilestoneAddress.fits (address : MilestoneAddress) :
    address.toJson.Fits decoder.shape (room + 1) := by
  cases address with
  | list => exact .str _
  | single number =>
    have hnumber : (Json.nat number.toNat).Fits .free room := .nat number.toNat_lt
    refine .free (.obj fun m hm => ?_) rfl
    obtain rfl := List.mem_singleton.1 hm
    exact hnumber.readable

/-- The scopes of a repository stand three levels deep, and everything above a repository adds one.
-/
theorem RepositoryConfig.fits (c : RepositoryConfig) : c.toJson.Fits decoder.shape (room + 3) :=
  .record (.cons rfl (.list _ _ fun r _ => r.fits) (.cons rfl c.milestone.fits
    (.cons rfl (.ofOption _ _ fun w _ => w.fits)
      (.cons rfl (.list _ _ fun state _ => Tag.fits state) .nil))))

theorem ProjectConfig.fits (c : ProjectConfig) : c.toJson.Fits decoder.shape (room + 4) :=
  .record (.cons rfl (.list _ _ fun r _ => r.fits) (.cons rfl c.repositories.fits .nil))

theorem AccountConfig.fits (c : AccountConfig) : c.toJson.Fits decoder.shape (room + 5) :=
  .record (.cons rfl (.list _ _ fun r _ => r.fits) (.cons rfl c.projects.fits .nil))

/-! ## Targets and credentials -/

/-- Kind and value stand in the order of their keys, so that the free object is in canonical form.
-/
theorem ProjectIdentity.fits (identity : ProjectIdentity) :
    identity.toJson.Fits decoder.shape (room + 1) := by
  have hkeys : ¬ "value" < "kind" := by decide
  have hpair : ∀ (name : String) (value : Json), value.Fits .free room →
      (Json.obj [("kind", .str name), ("value", value)]).Fits .free (room + 1) := by
    intro name value hvalue
    have hcanonical : value.canonical = value := by rw [← seen_free, hvalue.seen_eq]
    refine .free (.obj ?_) ?_
    · simp [hvalue.readable, Readable.str]
    · simp [canonical, canonicalMembers, sortMembers, insertMember, hcanonical, hkeys]
  cases identity with
  | name s => exact hpair _ _ (.str s)
  | number n => exact hpair _ _ (.nat n.toNat_lt)

theorem Account.fits (account : Account) : account.toJson.Fits decoder.shape (room + 1) :=
  .record (.cons rfl (.str _) (.cons rfl (.str _) .nil))

theorem Authorization.fits (auth : Authorization) {shape : Shape} :
    auth.toJson.Fits shape room := by
  cases auth with
  | installation id => exact .nat id.toNat_lt
  | token secret => exact .str secret

theorem Credential.fits (c : Credential) : c.toJson.Fits decoder.shape (room + 1) :=
  .record (.cons rfl c.auth.fits (.cons rfl (.str _) .nil))

/-! ## Project bodies -/

/-- Names are free values, one text or an array of texts. -/
theorem NameList.fits (names : NameList) : names.toJson.Fits decoder.shape (room + 1) := by
  cases names with
  | joined text => exact .str text
  | separate items =>
    have hitems : (Json.ofList Json.str items).Fits (.items .free) (room + 1) :=
      .list _ _ fun s _ => .str s
    exact ⟨hitems.readable, hitems.seen_eq⟩

/-- A page size as received has to fit as a free value. -/
theorem ReceivedRequest.fits {r : ReceivedRequest}
    (h : ∀ size ∈ r.pageSize, size.Fits .free room) :
    r.toJson.Fits decoder.shape (room + 1) :=
  .record (.cons rfl (.str _) (.cons rfl (.ofOption id r.pageSize h)
    (.cons rfl (.ofOption _ _ fun s _ => .str s) .nil)))

theorem ProjectBody.fits {b : ProjectBody}
    (h : ∀ r ∈ b.projectScopes ++ b.repositoryScopes, ∀ size ∈ r.pageSize, size.Fits .free room) :
    b.toJson.Fits decoder.shape (room + 3) :=
  .record (.cons rfl (.list _ _ fun r hr => ReceivedRequest.fits (h r (List.mem_append_left _ hr)))
    (.cons rfl (.list _ _ fun r hr => ReceivedRequest.fits (h r (List.mem_append_right _ hr)))
      (.cons rfl (.ofOption _ _ fun names _ => names.fits) .nil)))

/-! ## The request format -/

/-- Whatever was written for a request is read back from its text. A page size as received may be
any value but `null` that is in canonical order and can itself be read again; it stands on the
fourth level. -/
theorem requests_read_from_text :
    (∀ c : AccountConfig, AccountConfig.decoder.ReadsText c.toJson c) ∧
    (∀ identity : ProjectIdentity, ProjectIdentity.decoder.ReadsText identity.toJson identity) ∧
    (∀ account : Account, Account.decoder.ReadsText account.toJson account) ∧
    (∀ c : Credential, Credential.decoder.ReadsText c.toJson c) ∧
    ∀ b : ProjectBody,
      (∀ r ∈ b.projectScopes ++ b.repositoryScopes, ∀ size ∈ r.pageSize,
        size ≠ .null ∧ size.canonical = size ∧ size.Readable (maxDepth - 3)) →
      ProjectBody.decoder.ReadsText b.toJson b := by
  refine ⟨fun c => c.readsBack.readsText c.fits,
    fun identity => identity.readsBack.readsText identity.fits,
    fun account => account.readsBack.readsText account.fits,
    fun c => c.readsBack.readsText c.fits, fun b hsizes => ?_⟩
  have hnull : ∀ r ∈ b.projectScopes ++ b.repositoryScopes, r.pageSize ≠ some .null :=
    fun r hr hsize => (hsizes r hr .null hsize).1 rfl
  have hbody : ProjectBody.decoder.ReadsBack .declared b.toJson b :=
    ProjectBody.readsBack hnull fun _ _ _ _ => rfl
  refine hbody.readsText (ProjectBody.fits fun r hr size hsize => ?_)
  obtain ⟨-, hcanonical, hreadable⟩ := hsizes r hr size hsize
  exact .free hreadable hcanonical

end ScopeComposer
