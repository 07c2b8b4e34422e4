import ScopeComposer.Proofs.Scope.Faults
import ScopeComposer.Proofs.Text.Numeral
import ScopeComposer.Settings.Environment

/-!
# What the environment changes

Each variable has a grammar of its own and one setting that it replaces. What the values of a
variable mean and why some are refused is said here apart from the readers; the settings after the
environment has been taken over are then determined variable by variable.
-/

namespace ScopeComposer

/-- The variables of the environment, called after the settings that they replace. -/
inductive Variable where
  | withTotals
  | withEssential
  | defaultIssueStates
  | maxRetries
  | requestTimeout
  | baseUrl
deriving DecidableEq, Repr

namespace Variable

/-- All variables, in the order in which they are looked at. -/
def all : List Variable :=
  [withTotals, withEssential, defaultIssueStates, maxRetries, requestTimeout, baseUrl]

theorem mem_all (v : Variable) : v ∈ all := by
  cases v <;> decide

/-- The name of a variable in the environment. -/
def name : Variable → String
  | withTotals => "GITHUB_SCOPE_DEV_MODE"
  | withEssential => "GITHUB_SCOPE_IMPLICIT_ESSENTIAL"
  | defaultIssueStates => "GITHUB_SCOPE_DEFAULT_ISSUE_STATES"
  | maxRetries => "GITHUB_SCOPE_MAX_RETRIES"
  | requestTimeout => "GITHUB_SCOPE_REQUEST_TIMEOUT"
  | baseUrl => "GITHUB_SCOPE_API_BASE_URL"

/-- What the setting of a variable can be. -/
abbrev Value : Variable → Type
  | withTotals | withEssential => Bool
  | defaultIssueStates => List IssueState
  | maxRetries => UInt32
  | requestTimeout => Option UInt64
  | baseUrl => Option String

/-- The setting that a variable replaces. -/
def setting (s : Settings) : (v : Variable) → v.Value
  | withTotals => s.withTotals
  | withEssential => s.withEssential
  | defaultIssueStates => s.defaultIssueStates
  | maxRetries => s.maxRetries
  | requestTimeout => s.requestTimeout
  | baseUrl => s.baseUrl

/-! ## What values mean -/

/-- The words for a truth value; nothing is false. -/
def truthWords : Bool → List String
  | true => ["1", "true", "yes", "on"]
  | false => ["", "0", "false", "no", "off"]

/-- The text is, but for blank characters around it and the case of ASCII letters, a word for a
truth value. -/
def SaysTruth (text : String) (b : Bool) : Prop :=
  (Text.trim text).map Char.toLower ∈ truthWords b

/-- The text is, but for blank characters around it, a numeral without a minus sign. -/
def SaysNumber (text : String) (n : Nat) : Prop :=
  Text.UnsignedNumeral (Text.trim text).toList n

/-- What stands between the commas of the text, as far as it is not blank. -/
def HasEntries (text : String) (entries : List String) : Prop :=
  ∃ pieces : List String, ",".intercalate pieces = text ∧ (∀ p ∈ pieces, ',' ∉ p.toList) ∧
    Text.significant pieces = entries

/-- The text names states of issues one by one, between commas. -/
def ListsStates (text : String) (states : List IssueState) : Prop :=
  ∃ entries, HasEntries text entries ∧
    List.Forall₂ (fun entry t => Tag.name t = entry) entries states

/-- The values that a variable may have. -/
def Accepts : Variable → String → Prop
  | withTotals, text | withEssential, text => ∃ b, SaysTruth text b
  | defaultIssueStates, text =>
    ∃ entries, HasEntries text entries ∧ ∀ entry ∈ entries, ∃ t : IssueState, Tag.name t = entry
  | maxRetries, text => ∃ n < UInt32.size, SaysNumber text n
  | requestTimeout, text => ∃ n < UInt64.size, SaysNumber text n
  | baseUrl, _ => True

/-- What a value of a variable makes of its setting. -/
def Means : (v : Variable) → String → v.Value → Prop
  | withTotals, text, b | withEssential, text, b => SaysTruth text b
  | defaultIssueStates, text, states => ListsStates text states
  | maxRetries, text, n => SaysNumber text n.toNat
  | requestTimeout, text, seconds => ∃ n : UInt64, SaysNumber text n.toNat ∧ seconds = some n
  | baseUrl, text, address =>
    (∀ c ∈ text.toList, Text.isBlank c = true) ∧ address = none ∨
      (∃ c ∈ text.toList, Text.isBlank c = false) ∧ address = some text

/-- Why a value of a variable is refused; in a list, because of its leftmost bad name. -/
def Refuses : Variable → String → String → Prop
  | withTotals, text, reason | withEssential, text, reason =>
    (¬ ∃ b, SaysTruth text b) ∧ reason = "expected a boolean"
  | defaultIssueStates, text, reason => ∃ entries e, HasEntries text entries ∧
      Leftmost (Tag.Fault IssueState) entries e ∧ reason = e.message
  | maxRetries, text, reason =>
    (¬ ∃ n < UInt32.size, SaysNumber text n) ∧ reason = "expected a non-negative integer"
  | requestTimeout, text, reason =>
    (¬ ∃ n < UInt64.size, SaysNumber text n) ∧ reason = "expected a non-negative integer"
  | baseUrl, _, _ => False

/-- What a variable leaves of its setting: what its value means if it is set. -/
def Settles (env : Environment) (s s' : Settings) (v : Variable) : Prop :=
  match env v.name with
  | none => v.setting s' = v.setting s
  | some text => v.Means text (v.setting s')

/-- What is wrong with a variable: it is set to a value that is refused. -/
inductive Fault (env : Environment) (v : Variable) : SettingsError → Prop where
  /-- The error names the variable and its value as it is. -/
  | refused {text reason : String} (set : env v.name = some text) (h : v.Refuses text reason) :
    Fault env v (.invalidValue v.name text reason)

/-! ## The readers -/

section Readers

open Environment

variable {text reason : String}

theorem hasEntries_iff {entries : List String} :
    HasEntries text entries ↔ entries = Text.entries text := by
  constructor
  · rintro ⟨pieces, rfl, hcommas, rfl⟩
    exact (Text.entries_intercalate hcommas).symm
  · rintro rfl
    obtain ⟨pieces, hwhole, hcommas, hentries⟩ := Text.exists_pieces text
    exact ⟨pieces, hwhole, hcommas, hentries.symm⟩

theorem flag_eq_ok_iff {b : Bool} : flag text = .ok b ↔ SaysTruth text b := by
  unfold flag SaysTruth
  generalize (Text.trim text).map Char.toLower = word
  -- no word is one for both truth values
  have hapart : word ∈ truthWords true → word ∉ truthWords false := by
    simp only [truthWords]
    grind
  simp only [List.contains_iff_mem]
  split
  · next htrue =>
    cases b with
    | true => exact iff_of_true rfl htrue
    | false => exact iff_of_false nofun (hapart htrue)
  · next htrue =>
    split
    · next hfalse =>
      cases b with
      | true => exact iff_of_false nofun htrue
      | false => exact iff_of_true rfl hfalse
    · next hfalse =>
      cases b with
      | true => exact iff_of_false nofun htrue
      | false => exact iff_of_false nofun hfalse

theorem number_eq_ok_iff {bound n : Nat} :
    number bound text = .ok n ↔ n < bound ∧ SaysNumber text n := by
  unfold number SaysNumber
  rw [← Text.readBelow_eq_some_iff]
  cases Text.readBelow bound (Text.trim text) <;> simp

theorem issueStates_eq_ok_iff {states : List IssueState} :
    issueStates text = .ok states ↔ ListsStates text states := by
  unfold issueStates ListsStates
  rw [mapError_eq_ok_iff, mapM_eq_ok_iff]
  simp only [Tag.parse_eq_ok_iff, hasEntries_iff, exists_eq_left]

theorem issueStates_eq_error_iff : issueStates text = .error reason ↔
    ∃ entries e, HasEntries text entries ∧ Leftmost (Tag.Fault IssueState) entries e ∧
      reason = e.message := by
  have hreports : Reports (Tag.Fault IssueState)
      ((Text.entries text).mapM (Tag.parse IssueState)) (Text.entries text) :=
    .mapM (fun _ _ => Tag.parse_eq_error_iff) _
  unfold issueStates
  rw [mapError_eq_error_iff]
  simp only [hreports _, hasEntries_iff, exists_and_left, exists_eq_left, eq_comm]

/-- A check that has one reason to refuse refuses whatever it does not take. -/
theorem eq_error_iff_of_only {α : Type} {check : Except String α} {only : String}
    (h : ∀ reason, check = .error reason → reason = only) :
    check = .error reason ↔ (¬ ∃ a, check = .ok a) ∧ reason = only := by
  cases check with
  | ok a => simp
  | error other =>
    have hother : other = only := h other rfl
    simp [hother, eq_comm]

theorem flag_eq_error_iff : flag text = .error reason ↔
    (¬ ∃ b, SaysTruth text b) ∧ reason = "expected a boolean" := by
  have honly : ∀ reason, flag text = .error reason → reason = "expected a boolean" := by
    unfold flag
    grind
  rw [eq_error_iff_of_only honly]
  simp only [flag_eq_ok_iff]

theorem number_eq_error_iff {bound : Nat} : number bound text = .error reason ↔
    (¬ ∃ n < bound, SaysNumber text n) ∧ reason = "expected a non-negative integer" := by
  have honly : ∀ reason, number bound text = .error reason →
      reason = "expected a non-negative integer" := by
    unfold number
    grind
  rw [eq_error_iff_of_only honly]
  simp only [number_eq_ok_iff]

theorem address_eq_ok_iff {base : Option String} : address text = .ok base ↔
    (∀ c ∈ text.toList, Text.isBlank c = true) ∧ base = none ∨
      (∃ c ∈ text.toList, Text.isBlank c = false) ∧ base = some text := by
  unfold address Text.isBlankText
  rw [Except.ok.injEq]
  by_cases hblank : ∀ c ∈ text.toList, Text.isBlank c = true
  · rw [if_pos (List.all_eq_true.2 hblank)]
    constructor
    · rintro rfl
      exact .inl ⟨hblank, rfl⟩
    · rintro (⟨-, rfl⟩ | ⟨⟨c, hc, hvisible⟩, -⟩)
      · rfl
      · exact absurd (hblank c hc) (by simp [hvisible])
  · have hsome : ∃ c ∈ text.toList, Text.isBlank c = false := by
      simpa using hblank
    rw [if_neg fun hall => hblank (List.all_eq_true.1 hall)]
    constructor
    · rintro rfl
      exact .inr ⟨hsome, rfl⟩
    · rintro (⟨hall, -⟩ | ⟨-, rfl⟩)
      · exact absurd hall hblank
      · rfl

/-- The reader of a variable. -/
def read : (v : Variable) → String → Except String v.Value
  | withTotals | withEssential => flag
  | defaultIssueStates => issueStates
  | maxRetries => fun text => (number UInt32.size text).map .ofNat
  | requestTimeout => fun text => (number UInt64.size text).map fun n => some (.ofNat n)
  | baseUrl => address

variable {v : Variable}

/-- A value is read as what it means. -/
theorem read_eq_ok_iff {value : v.Value} : v.read text = .ok value ↔ v.Means text value := by
  cases v with
  | withTotals => exact flag_eq_ok_iff
  | withEssential => exact flag_eq_ok_iff
  | defaultIssueStates => exact issueStates_eq_ok_iff
  | maxRetries =>
    refine map_eq_ok_iff.trans ?_
    simp only [number_eq_ok_iff]
    constructor
    · rintro ⟨n, ⟨hlt, hsays⟩, rfl⟩
      rwa [Means, UInt32.toNat_ofNat_of_lt' hlt]
    · intro hsays
      exact ⟨value.toNat, ⟨value.toNat_lt, hsays⟩, UInt32.ofNat_toNat⟩
  | requestTimeout =>
    refine map_eq_ok_iff.trans ?_
    simp only [number_eq_ok_iff]
    constructor
    · rintro ⟨n, ⟨hlt, hsays⟩, rfl⟩
      refine ⟨.ofNat n, ?_, rfl⟩
      rwa [UInt64.toNat_ofNat_of_lt' hlt]
    · rintro ⟨n, hsays, rfl⟩
      exact ⟨n.toNat, ⟨n.toNat_lt, hsays⟩, congrArg some UInt64.ofNat_toNat⟩
  | baseUrl => exact address_eq_ok_iff

theorem read_eq_error_iff : v.read text = .error reason ↔ v.Refuses text reason := by
  cases v with
  | withTotals => exact flag_eq_error_iff
  | withEssential => exact flag_eq_error_iff
  | defaultIssueStates => exact issueStates_eq_error_iff
  | maxRetries => exact map_eq_error_iff.trans number_eq_error_iff
  | requestTimeout => exact map_eq_error_iff.trans number_eq_error_iff
  | baseUrl => exact iff_of_false nofun id

/-- The values that a variable may have are those that mean something. -/
theorem accepts_iff : v.Accepts text ↔ ∃ value, v.Means text value := by
  cases v with
  | withTotals => exact Iff.rfl
  | withEssential => exact Iff.rfl
  | defaultIssueStates =>
    constructor
    · rintro ⟨entries, hentries, hall⟩
      obtain ⟨states, hstates⟩ := exists_forall₂_iff.2 hall
      exact ⟨states, entries, hentries, hstates⟩
    · rintro ⟨states, entries, hentries, hstates⟩
      exact ⟨entries, hentries, exists_forall₂_iff.1 ⟨states, hstates⟩⟩
  | maxRetries =>
    constructor
    · rintro ⟨n, hlt, hsays⟩
      refine ⟨.ofNat n, ?_⟩
      rwa [Means, UInt32.toNat_ofNat_of_lt' hlt]
    · rintro ⟨n, hsays⟩
      exact ⟨n.toNat, n.toNat_lt, hsays⟩
  | requestTimeout =>
    constructor
    · rintro ⟨n, hlt, hsays⟩
      refine ⟨some (.ofNat n), .ofNat n, ?_, rfl⟩
      rwa [UInt64.toNat_ofNat_of_lt' hlt]
    · rintro ⟨_, n, hsays, rfl⟩
      exact ⟨n.toNat, n.toNat_lt, hsays⟩
  | baseUrl => exact iff_of_true trivial ⟨_, address_eq_ok_iff.1 rfl⟩

/-! ## What is left of a setting -/

variable {env env' : Environment} {s s' t : Settings}

/-- A value of a variable does not mean two things. -/
theorem Means.unique {value value' : v.Value} (h : v.Means text value) (h' : v.Means text value') :
    value = value' := by
  have hread := read_eq_ok_iff.2 h
  have hread' := read_eq_ok_iff.2 h'
  exact Except.ok.inj (hread.symm.trans hread')

theorem Settles.unique (h : v.Settles env s s') (h' : v.Settles env s t) :
    v.setting s' = v.setting t := by
  unfold Settles at h h'
  cases hset : env v.name with
  | none =>
    rw [hset] at h h'
    exact h.trans h'.symm
  | some text =>
    rw [hset] at h h'
    exact Means.unique h h'

/-- Taking a variable over again does not change its setting. -/
theorem Settles.again (h : v.Settles env s s') : v.Settles env s' s' := by
  unfold Settles at h ⊢
  cases hset : env v.name with
  | none => rfl
  | some text => rwa [hset] at h

/-- Only the value of the variable itself matters. -/
theorem settles_congr (henv : env' v.name = env v.name) :
    v.Settles env' s s' ↔ v.Settles env s s' := by
  unfold Settles
  rw [henv]

end Readers

end Variable

namespace Settings

open Variable Environment

variable {env : Environment} {s s' : Settings}

theorem override_eq_ok_iff {v : Variable} : env.override v.name v.read (v.setting s) =
    .ok (v.setting s') ↔ v.Settles env s s' := by
  unfold override Settles
  cases env v.name with
  | none =>
    simp only [Except.ok.injEq]
    exact eq_comm
  | some text => exact mapError_eq_ok_iff.trans read_eq_ok_iff

theorem override_eq_error_iff {v : Variable} {e : SettingsError} :
    env.override v.name v.read (v.setting s) = .error e ↔ v.Fault env e := by
  unfold override
  constructor
  · cases hset : env v.name with
    | none => nofun
    | some text =>
      intro hfailed
      obtain ⟨reason, hread, rfl⟩ := mapError_eq_error_iff.1 hfailed
      exact .refused hset (read_eq_error_iff.1 hread)
  · rintro ⟨hset, hrefused⟩
    rw [hset]
    exact mapError_eq_error_iff.2 ⟨_, read_eq_error_iff.2 hrefused, rfl⟩

/-- The variables are taken over one by one, and each of them into its own setting. -/
theorem withEnvironment_eq_ok_iff : s.withEnvironment env = .ok s' ↔
    s'.defaultPageSize = s.defaultPageSize ∧ ∀ v : Variable, v.Settles env s s' := by
  simp only [← override_eq_ok_iff]
  constructor
  · intro h
    obtain ⟨_, hwithTotals, h⟩ := bind_eq_ok_iff.1 h
    obtain ⟨_, hwithEssential, h⟩ := bind_eq_ok_iff.1 h
    obtain ⟨_, hdefaultIssueStates, h⟩ := bind_eq_ok_iff.1 h
    obtain ⟨_, hmaxRetries, h⟩ := bind_eq_ok_iff.1 h
    obtain ⟨_, hrequestTimeout, h⟩ := bind_eq_ok_iff.1 h
    obtain ⟨_, hbaseUrl, h⟩ := bind_eq_ok_iff.1 h
    obtain rfl := Except.ok.inj h
    refine ⟨rfl, fun v => ?_⟩
    cases v <;> assumption
  · rintro ⟨hsize, h⟩
    obtain ⟨_, _, _, size, _, _, _⟩ := s'
    obtain rfl : size = s.defaultPageSize := hsize
    exact bind_eq_ok_iff.2 ⟨_, h .withTotals, bind_eq_ok_iff.2 ⟨_, h .withEssential,
      bind_eq_ok_iff.2 ⟨_, h .defaultIssueStates, bind_eq_ok_iff.2 ⟨_, h .maxRetries,
        bind_eq_ok_iff.2 ⟨_, h .requestTimeout, bind_eq_ok_iff.2 ⟨_, h .baseUrl, rfl⟩⟩⟩⟩⟩⟩

theorem reports_withEnvironment (env : Environment) (s : Settings) :
    Reports (Variable.Fault env) (s.withEnvironment env) Variable.all := by
  have hstep : ∀ v : Variable, Reports (Variable.Fault env)
      (env.override v.name v.read (v.setting s)) [v] :=
    fun _ => .single fun _ => override_eq_error_iff
  exact (hstep .withTotals).bind fun _ => (hstep .withEssential).bind fun _ =>
    (hstep .defaultIssueStates).bind fun _ => (hstep .maxRetries).bind fun _ =>
      (hstep .requestTimeout).bind fun _ => (hstep .baseUrl).map

/-- A variable has a fault if it is set to what it may not be. -/
theorem exists_fault_iff {v : Variable} : (∃ e, v.Fault env e) ↔
    ∃ text, env v.name = some text ∧ ¬ v.Accepts text := by
  have hrefused : ∀ text, (∃ reason, v.Refuses text reason) ↔ ¬ v.Accepts text := by
    intro text
    simp only [accepts_iff, ← read_eq_error_iff, ← read_eq_ok_iff]
    cases v.read text <;> simp
  constructor
  · rintro ⟨_, hset, h⟩
    exact ⟨_, hset, (hrefused _).1 ⟨_, h⟩⟩
  · rintro ⟨text, hset, h⟩
    obtain ⟨reason, h⟩ := (hrefused text).2 h
    exact ⟨_, .refused hset h⟩

/-- The environment is taken over if every variable that is set has a value that it may have. Then
each setting is what its own variable says, if that is set, and what it was otherwise, and taking
the same environment over again changes nothing. If not, the first variable in their order whose
value is refused is reported. -/
theorem withEnvironment_settles (env : Environment) (s : Settings) :
    ((∃ s', s.withEnvironment env = .ok s') ↔
      ∀ (v : Variable) (text : String), env v.name = some text → v.Accepts text) ∧
    (∀ s', s.withEnvironment env = .ok s' ↔
      s'.defaultPageSize = s.defaultPageSize ∧ ∀ v : Variable, v.Settles env s s') ∧
    (∀ s', s.withEnvironment env = .ok s' → s'.withEnvironment env = .ok s' ∧
      ∀ (env' : Environment) (t : Settings) (v : Variable), s.withEnvironment env' = .ok t →
        env' v.name = env v.name → v.setting t = v.setting s') ∧
    ∀ e, s.withEnvironment env = .error e ↔ ∃ before v after text reason,
      Variable.all = before ++ v :: after ∧
      (∀ w ∈ before, ∀ text, env w.name = some text → w.Accepts text) ∧
      env v.name = some text ∧ v.Refuses text reason ∧ e = .invalidValue v.name text reason := by
  have hsound : ∀ v : Variable, (∀ e, ¬ v.Fault env e) ↔
      ∀ text, env v.name = some text → v.Accepts text := by
    intro v
    rw [← not_exists, exists_fault_iff]
    simp
  refine ⟨?_, fun _ => withEnvironment_eq_ok_iff, ?_, ?_⟩
  · rw [(reports_withEnvironment env s).passes_iff]
    simp only [Variable.mem_all, hsound, forall_const]
  · intro s' h
    have hsettled := (withEnvironment_eq_ok_iff.1 h).2
    refine ⟨withEnvironment_eq_ok_iff.2 ⟨rfl, fun v => (hsettled v).again⟩, ?_⟩
    intro env' t v h' henv
    have hsettled' := (withEnvironment_eq_ok_iff.1 h').2 v
    exact ((settles_congr henv).1 hsettled').unique (hsettled v)
  · intro e
    rw [reports_withEnvironment env s e, leftmost_iff]
    simp only [hsound]
    constructor
    · rintro ⟨before, v, after, hwhole, hbefore, hset, h⟩
      exact ⟨before, v, after, _, _, hwhole, hbefore, hset, h, rfl⟩
    · rintro ⟨before, v, after, text, reason, hwhole, hbefore, hset, h, rfl⟩
      exact ⟨before, v, after, hwhole, hbefore, .refused hset h⟩

theorem withEnvironment_settles_of_set_and_refused :
    let env := ofList [("GITHUB_SCOPE_DEV_MODE", " Yes"), ("GITHUB_SCOPE_API_BASE_URL", " "),
      ("GITHUB_SCOPE_DEFAULT_ISSUE_STATES", "closed, ,open,closed"),
      ("GITHUB_SCOPE_MAX_RETRIES", "+007")]
    let after : Settings :=
      { withTotals := true, maxRetries := 7, defaultIssueStates := [.closed, .opened, .closed] }
    let refused := ofList [("GITHUB_SCOPE_REQUEST_TIMEOUT", "-1"),
      ("GITHUB_SCOPE_MAX_RETRIES", "4294967296 ")]
    after.withEnvironment env = .ok after ∧
      ∃ before v after text reason, Variable.all = before ++ v :: after ∧
        (∀ w ∈ before, ∀ text, refused (Variable.name w) = some text → w.Accepts text) ∧
        refused v.name = some text ∧ v.Refuses text reason ∧
        SettingsError.invalidValue "GITHUB_SCOPE_MAX_RETRIES" "4294967296 "
          "expected a non-negative integer" = .invalidValue v.name text reason :=
  ⟨((withEnvironment_settles _ standard).2.2.1 _ (by decide +kernel)).1,
    ((withEnvironment_settles _ standard).2.2.2 _).1 (by rfl)⟩

end Settings

end ScopeComposer
