import ScopeComposer.Compose.ProjectBody
import ScopeComposer.Proofs.Json.Records
import ScopeComposer.Target.Credential

/-!
# Requests are read back

Every part of a request is read back from its JSON form: by induction on the request format, from
page sizes and cursors outwards. A field that is left out of a record has a value of its own, so
that a written `null` has to stand for the same; a page size as received is the only place where any
JSON value may stand, and there a written `null` cannot be told from none.
-/

namespace ScopeComposer

open Json

variable {order : MemberOrder}

/-! ## Windows -/

theorem PageSize.ofInt_value (size : PageSize) : PageSize.ofInt size.value = .ok size := by
  have hone := size.one_le
  have hmax := size.le_hundred
  have hrange : 1 ≤ (size.value : Int) ∧ (size.value : Int) ≤ 100 := by omega
  unfold ofInt ofInt?
  rw [dif_pos hrange]
  rfl

theorem PageSize.readsBack (size : PageSize) : decoder.ReadsBack order size.toJson size := by
  have hmax := size.le_hundred
  have hbounds : -(Text.signedBound : Int) ≤ size.value ∧
      (size.value : Int) < Text.signedBound := by
    unfold Text.signedBound
    omega
  have hread : Decoder.int64.ReadsBack order size.toJson size.value :=
    Decoder.ReadsBack.integer hbounds.1 hbounds.2
  exact hread.andThen (by simp [ofInt_value])

/-- A cursor is never one of the texts that stand for none. -/
theorem Cursor.ofOption_value (c : Cursor) : Cursor.ofOption c.value = c := by
  obtain ⟨value, hplaceholder⟩ := c
  cases value with
  | none => rfl
  | some s =>
    have hs : s ∉ cursorPlaceholders := hplaceholder s rfl
    simp [ofOption, ofString, hs]

theorem Cursor.readsBack (c : Cursor) : decoder.ReadsBack order c.toJson c := by
  have hread : Decoder.string.option.ReadsBack order c.toJson c.value :=
    Decoder.ReadsBack.option _ _ (by simp) fun s _ => Decoder.ReadsBack.string s
  have hmapped := hread.map Cursor.ofOption
  rwa [ofOption_value] at hmapped

theorem PageWindow.readsBack (w : PageWindow) : decoder.ReadsBack order w.toJson w := by
  refine Record.readsBack (by simp [memberKeys]) (by simp [NamesApart, Slot.Apart])
    fun members hmembers => ?_
  have hsize := Record.Accepts.orElse "pageSize" .one hmembers (by simp) w.pageSize.readsBack
  have hcursor :=
    Record.Accepts.orElse "continueAfter" .none hmembers (by simp) w.continueAfter.readsBack
  exact (hsize.map PageWindow.mk).seq hcursor

/-! ## Scopes -/

section Tag

variable {S : Type} [DecidableEq S] [Tag S]

/-- The name of a tag is looked up as that tag. -/
theorem Tag.lookup_name {tags : List S} {t : S} (h : t ∈ tags) :
    (tags.map fun t => (Tag.name t, t)).lookup (Tag.name t) = some t := by
  induction tags with
  | nil => exact absurd h List.not_mem_nil
  | cons u tags ih =>
    rw [List.map_cons, List.lookup_cons]
    by_cases hname : Tag.name t = Tag.name u
    · rw [Tag.name_injective t u hname]
      simp
    · have hne : t ≠ u := fun heq => hname (congrArg Tag.name heq)
      rw [beq_false_of_ne hname]
      exact ih (List.mem_of_ne_of_mem hne h)

theorem Tag.readsBack (t : S) : (Tag.decoder (S := S)).ReadsBack order (Tag.toJson t) t :=
  Decoder.ReadsBack.variant (Tag.lookup_name (Tag.mem_catalogue t))

theorem ScopeRequest.readsBack (r : ScopeRequest S) :
    (decoder (S := S)).ReadsBack order r.toJson r := by
  refine Record.readsBack (by simp [memberKeys]) (by simp [NamesApart, Slot.Apart])
    fun members hmembers => ?_
  have hscope := Record.Accepts.required "scopeName" hmembers (by simp) (Tag.readsBack r.scope)
  have hsize := Record.Accepts.orElse "pageSize" .one hmembers (by simp) r.pageSize.readsBack
  have hcursor :=
    Record.Accepts.orElse "continueAfter" .none hmembers (by simp) r.continueAfter.readsBack
  exact ((hscope.map ScopeRequest.mk).seq hsize).seq hcursor

end Tag

/-! ## Configurations -/

theorem MilestoneAddress.readsBack (address : MilestoneAddress) :
    decoder.ReadsBack order address.toJson address := by
  cases address with
  | list =>
    rw [toJson, Decoder.ReadsBack, inOrder_str]
    rfl
  | single number =>
    have hnumber : Decoder.uint64.ReadsBack .declared (.nat number.toNat) number :=
      Decoder.ReadsBack.uint64 number
    unfold Decoder.ReadsBack inOrder at hnumber
    have hobj : (toJson (.single number)).inOrder order =
        .obj [("singular", .nat number.toNat)] := by
      cases order <;> rfl
    rw [Decoder.ReadsBack, hobj]
    change decodeForm "singular" (some (.nat number.toNat)) = _
    unfold decodeForm
    simp only [if_true, hnumber]
    rfl

theorem RepositoryConfig.readsBack (c : RepositoryConfig) :
    decoder.ReadsBack order c.toJson c := by
  refine Record.readsBack (by simp [memberKeys]) (by simp [NamesApart, Slot.Apart])
    fun members hmembers => ?_
  have hscopes := Record.Accepts.required "scopes" hmembers (by simp)
    (Decoder.ReadsBack.list _ c.scopes fun r _ => r.readsBack)
  have hmilestone :=
    Record.Accepts.orElse "milestone" .list hmembers (by simp) c.milestone.readsBack
  have hnull : ∀ w ∈ c.milestoneWindow, w.toJson ≠ .null := by simp [PageWindow.toJson]
  have hwindow := Record.Accepts.orElse "milestone_window" none hmembers (by simp)
    (Decoder.ReadsBack.option _ c.milestoneWindow hnull fun w _ => w.readsBack)
  have hstates := Record.Accepts.orElse "issue_states" [] hmembers (by simp)
    (Decoder.ReadsBack.list _ c.issueStates fun state _ => Tag.readsBack state)
  exact (((hscopes.map RepositoryConfig.mk).seq hmilestone).seq hwindow).seq hstates

theorem ProjectConfig.readsBack (c : ProjectConfig) : decoder.ReadsBack order c.toJson c := by
  refine Record.readsBack (by simp [memberKeys]) (by simp [NamesApart, Slot.Apart])
    fun members hmembers => ?_
  have hscopes := Record.Accepts.required "scopes" hmembers (by simp)
    (Decoder.ReadsBack.list _ c.scopes fun r _ => r.readsBack)
  have hrepositories :=
    Record.Accepts.orElse "repositories" default hmembers (by simp) c.repositories.readsBack
  exact (hscopes.map ProjectConfig.mk).seq hrepositories

theorem AccountConfig.readsBack (c : AccountConfig) : decoder.ReadsBack order c.toJson c := by
  refine Record.readsBack (by simp [memberKeys]) (by simp [NamesApart, Slot.Apart])
    fun members hmembers => ?_
  have hscopes := Record.Accepts.required "scopes" hmembers (by simp)
    (Decoder.ReadsBack.list _ c.scopes fun r _ => r.readsBack)
  have hprojects := Record.Accepts.orElse "projects" default hmembers (by simp) c.projects.readsBack
  exact (hscopes.map AccountConfig.mk).seq hprojects

/-! ## Targets and credentials -/

/-- An identity that was written is decoded kind first. -/
theorem ProjectIdentity.decodeMembers_pair {name : String} {kind : Kind} {value : Json}
    {identity : ProjectIdentity} (hkind : Kind.decoder.run (.str name) = .ok kind)
    (hvalue : decodeValue kind value = .ok identity) :
    decodeMembers [("kind", .str name), ("value", value)] = .ok identity := by
  have hne : ¬ "value" = "kind" := by decide
  simp only [decodeMembers, if_true, hkind]
  change decodeAfterKind kind [("value", value)] = _
  simp only [decodeAfterKind, if_neg hne, if_true, hvalue]
  rfl

theorem ProjectIdentity.readsBack (identity : ProjectIdentity) :
    decoder.ReadsBack order identity.toJson identity := by
  -- `kind` comes before `value` in both orders
  have horder : ∀ (name : String) (value : Json), value.inOrder order = value →
      (Json.obj [("kind", .str name), ("value", value)]).inOrder order =
        .obj [("kind", .str name), ("value", value)] := by
    intro name value hvalue
    have hkeys : ¬ "value" < "kind" := by decide
    cases order with
    | declared => rfl
    | sorted =>
      unfold inOrder at hvalue ⊢
      simp [canonical, canonicalMembers, sortMembers, insertMember, hvalue, hkeys]
  cases identity with
  | name s =>
    rw [toJson, Decoder.ReadsBack, horder _ _ (inOrder_str _ s)]
    exact decodeMembers_pair rfl rfl
  | number n =>
    have hnumber : Decoder.uint64.ReadsBack .declared (.nat n.toNat) n :=
      Decoder.ReadsBack.uint64 n
    unfold Decoder.ReadsBack inOrder at hnumber
    have hvalue : decodeValue .number (.nat n.toNat) = .ok (.number n) := by
      unfold decodeValue
      simp only [hnumber]
      rfl
    rw [toJson, Decoder.ReadsBack, horder _ _ (inOrder_nat _ _)]
    exact decodeMembers_pair rfl hvalue

theorem Account.readsBack (account : Account) : decoder.ReadsBack order account.toJson account := by
  refine Record.readsBack (by simp [memberKeys]) (by simp [NamesApart, Slot.Apart])
    fun members hmembers => ?_
  have hlogin := Record.Accepts.required "login" hmembers (by simp)
    (Decoder.ReadsBack.string account.login)
  have hlookup : (AccountKind.all.map fun kind => (kind.text, kind)).lookup account.kind.text =
      some account.kind := by
    cases account.kind <;> rfl
  have hkind := Record.Accepts.required "account_type" hmembers (by simp)
    (Decoder.ReadsBack.variant hlookup)
  exact (hlogin.map Account.mk).seq hkind

theorem Authorization.readsBack (auth : Authorization) :
    decoder.ReadsBack order auth.toJson auth := by
  cases auth with
  | installation id =>
    exact Decoder.ReadsBack.either_first
      ((Decoder.ReadsBack.uint64 id).map Authorization.installation)
  | token secret =>
    have hsecret : Decoder.string.ReadsBack order (.str secret) secret :=
      Decoder.ReadsBack.string secret
    refine Decoder.ReadsBack.either_second ?_ (hsecret.map Authorization.token)
    rw [toJson, inOrder_str]
    exact ⟨_, rfl⟩

theorem Credential.readsBack (c : Credential) : decoder.ReadsBack order c.toJson c := by
  refine Record.readsBack (by simp [memberKeys]) (by simp [NamesApart, Slot.Apart])
    fun members hmembers => ?_
  have hauth := Record.Accepts.required "auth" hmembers (by simp) c.auth.readsBack
  have hlookup : (CredentialKind.all.map fun kind => (kind.text, kind)).lookup c.kind.text =
      some c.kind := by
    cases c.kind <;> rfl
  have hkind := Record.Accepts.required "auth_type" hmembers (by simp)
    (Decoder.ReadsBack.variant hlookup)
  exact (hauth.map Credential.mk).seq hkind

/-! ## Project bodies -/

theorem NameList.readsBack (names : NameList) : decoder.ReadsBack order names.toJson names := by
  cases names with
  | joined text =>
    exact Decoder.ReadsBack.either_first ((Decoder.ReadsBack.string text).map NameList.joined)
  | separate items =>
    have hitems : Decoder.string.list.ReadsBack order (.ofList .str items) items :=
      Decoder.ReadsBack.list _ _ fun s _ => Decoder.ReadsBack.string s
    refine Decoder.ReadsBack.either_second ?_ (hitems.map NameList.separate)
    rw [toJson, ofList, inOrder_arr]
    exact ⟨_, rfl⟩

/-- A page size as received is carried along as it is, so that it has to stand in order already. -/
theorem ReceivedRequest.readsBack {r : ReceivedRequest} (hnull : r.pageSize ≠ some .null)
    (horder : ∀ size ∈ r.pageSize, size.inOrder order = size) :
    decoder.ReadsBack order r.toJson r := by
  refine Record.readsBack (by simp [memberKeys]) (by simp [NamesApart, Slot.Apart])
    fun members hmembers => ?_
  have hname := Record.Accepts.field "scopeName" ["scope_name"] hmembers (by simp)
    (by simp [memberKeys]) (Decoder.ReadsBack.string r.scopeName) .never
  have hsizeNull : ∀ size ∈ r.pageSize, id size ≠ Json.null := by
    rintro size hsize rfl
    exact hnull hsize
  have hsizeRead : ∀ size ∈ r.pageSize, Decoder.value.ReadsBack order (id size) size := by
    intro size hsize
    rw [Decoder.ReadsBack, id, horder size hsize]
    rfl
  have hsize := Record.Accepts.field "pageSize" ["page_size"] hmembers (by simp)
    (by simp [memberKeys]) (Decoder.ReadsBack.option id r.pageSize hsizeNull hsizeRead)
    (.orElse none)
  have hcursor := Record.Accepts.field "continueAfter" ["continue_after"] hmembers
    (by simp [ofOptionalText]) (by simp [memberKeys])
    (Decoder.ReadsBack.option Json.str r.continueAfter (by simp) fun s _ =>
      Decoder.ReadsBack.string s) (.orElse none)
  exact ((hname.map ReceivedRequest.mk).seq hsize).seq hcursor

theorem ProjectBody.readsBack {b : ProjectBody}
    (hnull : ∀ r ∈ b.projectScopes ++ b.repositoryScopes, r.pageSize ≠ some .null)
    (horder : ∀ r ∈ b.projectScopes ++ b.repositoryScopes, ∀ size ∈ r.pageSize,
      size.inOrder order = size) : decoder.ReadsBack order b.toJson b := by
  have hrequest : ∀ r ∈ b.projectScopes ++ b.repositoryScopes,
      ReceivedRequest.decoder.ReadsBack order r.toJson r := fun r hr =>
    ReceivedRequest.readsBack (hnull r hr) (horder r hr)
  refine Record.readsBack (by simp [memberKeys]) (by simp [NamesApart, Slot.Apart])
    fun members hmembers => ?_
  have hprojects := Record.Accepts.field "project_scopes" ["projectScopes"] hmembers (by simp)
    (by simp [memberKeys]) (Decoder.ReadsBack.list _ b.projectScopes fun r hr =>
      hrequest r (List.mem_append_left _ hr)) (.orElse [])
  have hrepositories := Record.Accepts.field "repository_scopes" ["repositoryScopes"] hmembers
    (by simp) (by simp [memberKeys]) (Decoder.ReadsBack.list _ b.repositoryScopes fun r hr =>
      hrequest r (List.mem_append_right _ hr)) (.orElse [])
  have hnames : ∀ names ∈ b.issueStates, names.toJson ≠ .null := by
    intro names _
    cases names <;> simp [NameList.toJson, ofList]
  have hstates := Record.Accepts.field "issue_states" ["issueStates"] hmembers (by simp)
    (by simp [memberKeys]) (Decoder.ReadsBack.option _ b.issueStates hnames fun names _ =>
      names.readsBack) (.orElse none)
  exact ((hprojects.map ProjectBody.mk).seq hrepositories).seq hstates

/-! ## The request format -/

/-- Whatever was written for a request is read back as that request: from the members as the encoder
lists them and from members in canonical order. A page size as received may be any value but `null`;
it is read back in canonical order if that is its own. What is written and read here is a value;
that the texts of these values are read back, too, is `requests_read_from_text`. -/
theorem requests_read_back :
    (∀ order (c : AccountConfig), AccountConfig.decoder.ReadsBack order c.toJson c) ∧
    (∀ order (identity : ProjectIdentity),
      ProjectIdentity.decoder.ReadsBack order identity.toJson identity) ∧
    (∀ order (account : Account), Account.decoder.ReadsBack order account.toJson account) ∧
    (∀ order (c : Credential), Credential.decoder.ReadsBack order c.toJson c) ∧
    (∀ b : ProjectBody,
      (∀ r ∈ b.projectScopes ++ b.repositoryScopes, r.pageSize ≠ some .null) →
        ProjectBody.decoder.ReadsBack .declared b.toJson b ∧
        ((∀ r ∈ b.projectScopes ++ b.repositoryScopes, ∀ size ∈ r.pageSize,
            size.canonical = size) →
          ProjectBody.decoder.ReadsBack .sorted b.toJson b)) := by
  refine ⟨fun _ c => c.readsBack, fun _ identity => identity.readsBack,
    fun _ account => account.readsBack, fun _ c => c.readsBack, fun b hnull => ?_⟩
  exact ⟨ProjectBody.readsBack hnull fun _ _ _ _ => rfl,
    fun hcanonical => ProjectBody.readsBack hnull hcanonical⟩

/-- A page size that is no number at all, a cursor that stands for none, and no states. -/
theorem requests_read_back_of_any_page_size :
    let request : ReceivedRequest :=
      ⟨"topics", some (.obj [("a", .null), ("b", .arr [.bool true])]), some "undefined"⟩
    let b : ProjectBody := ⟨[], [request], none⟩
    ((∀ r ∈ b.projectScopes ++ b.repositoryScopes, r.pageSize ≠ some .null) ∧
      ∀ r ∈ b.projectScopes ++ b.repositoryScopes, ∀ size ∈ r.pageSize, size.canonical = size) ∧
    ProjectBody.decoder.ReadsBack .declared b.toJson b ∧
    ProjectBody.decoder.ReadsBack .sorted b.toJson b := by
  intro request b
  have hnull : ∀ r ∈ b.projectScopes ++ b.repositoryScopes, r.pageSize ≠ some .null := by
    simp [b, request]
  have hcanonical : ∀ r ∈ b.projectScopes ++ b.repositoryScopes, ∀ size ∈ r.pageSize,
      size.canonical = size := by
    have horder : ¬ "b" < "a" := by decide
    simp [b, request, canonical, canonicalMembers, canonicalItems, sortMembers, insertMember,
      horder]
  obtain ⟨hdeclared, hsorted⟩ := requests_read_back.2.2.2.2 b hnull
  exact ⟨⟨hnull, hcanonical⟩, hdeclared, hsorted hcanonical⟩

end ScopeComposer
