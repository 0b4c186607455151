/-
Which named values make a configuration.

Every setting is read on its own: it is what is found under its key, or its default if
nothing is (`Says`), or what is found there is no count below the limit (`Offends`). The
settings are read one after the other, and the first that offends is reported; that the
default timeout is zero is found only when all of them have been read.

So the settings of an accepted configuration do not depend on each other, and of several
offences one is reported, whatever the others are.
-/
import Settle.Proofs.Config
import Settle.Proofs.Text.Count

set_option autoImplicit false

namespace Settle

/-- Of two computations in a row, one fails: the second only if the first did not. -/
theorem Except.bind_eq_error_iff {ε α β : Type} {x : Except ε α} {f : α → Except ε β} {e : ε} :
    x >>= f = .error e ↔ x = .error e ∨ ∃ a, x = .ok a ∧ f a = .error e := by
  cases x with
  | error e' =>
    constructor
    · rintro ⟨⟩
      exact .inl rfl
    · rintro (⟨⟨⟩⟩ | ⟨_, h, -⟩)
      · rfl
      · cases h
  | ok a =>
    constructor
    · intro h
      exact .inr ⟨a, rfl, h⟩
    · rintro (h | ⟨_, ⟨⟩, h⟩)
      · cases h
      · exact h

namespace Config

/-! ## 1. One setting -/

namespace Setting

/-- The settings in the order in which they are read. -/
def order : List Setting :=
  [.retries, .pollInterval, .minPollInterval, .jobPollInterval, .retryDelay, .defaultTimeout]

/-- Values of the setting are below this: a number of retries has 32 bits, a time has 64. -/
def limit : Setting → Nat
  | .retries => 4294967296
  | _ => 18446744073709551616

/-- Its value if nothing is found under its key. -/
def default : Setting → Nat
  | .pollInterval | .minPollInterval | .jobPollInterval => 10000
  | .retries => 2
  | .retryDelay => 60000
  | .defaultTimeout => 1800000

theorem limit_pos (setting : Setting) : 0 < setting.limit := by
  cases setting <;> decide

/-- No two settings have the same key. -/
theorem key_injective : Function.Injective key := by
  intro one other h
  cases one <;> cases other <;> first | rfl | (revert h; decide)

end Setting

/-- The value of a setting in a configuration. -/
def get (c : Config) : Setting → Nat
  | .pollInterval => c.pollInterval
  | .minPollInterval => c.minPollInterval
  | .jobPollInterval => c.jobPollInterval
  | .retries => c.retries
  | .retryDelay => c.retryDelay
  | .defaultTimeout => c.defaultTimeout

/-- What the setting is: the number that is found under its key, between blanks perhaps, or its
default. -/
inductive Says (lookup : String → Option String) (setting : Setting) : Nat → Prop
  | absent (h : lookup setting.key = none) : Says lookup setting setting.default
  | given {value : String} {core : List Char} {n : Nat} (h : lookup setting.key = some value)
    (hcore : Text.Stripped value.toList core) (hnumber : Text.Numeral core n)
    (hlimit : n < setting.limit) : Says lookup setting n

/-- What is found under the key of the setting is no such number. -/
inductive Offends (lookup : String → Option String) (setting : Setting) : Text.CountDefect → Prop
  | given {value : String} {core : List Char} {cause : Text.CountDefect}
    (h : lookup setting.key = some value) (hcore : Text.Stripped value.toList core)
    (hcause : Text.Miscounts setting.limit core cause) : Offends lookup setting cause

section Reading

variable {lookup : String → Option String} {setting : Setting} {n : Nat} {d : Defect}
  {cause cause' : Text.CountDefect}

section Found

variable {value : String} (hvalue : lookup setting.key = some value)
include hvalue

theorem says_iff_count :
    Says lookup setting n ↔
      Text.count setting.limit (Text.trimmed value.toList) = .ok n := by
  rw [Text.count_eq_ok_iff setting.limit_pos]
  constructor
  · intro h
    cases h with
    | absent h =>
      rw [hvalue] at h
      cases h
    | given h hcore hnumber hlimit =>
      rw [hvalue, Option.some.injEq] at h
      rw [h, ← Text.stripped_iff.1 hcore]
      exact ⟨hnumber, hlimit⟩
  · rintro ⟨hnumber, hlimit⟩
    exact .given hvalue (Text.stripped_trimmed _) hnumber hlimit

theorem offends_iff_count :
    Offends lookup setting cause ↔
      Text.count setting.limit (Text.trimmed value.toList) = .error cause := by
  rw [Text.count_eq_error_iff setting.limit_pos]
  constructor
  · rintro ⟨h, hcore, hcause⟩
    rw [hvalue, Option.some.injEq] at h
    rw [h, ← Text.stripped_iff.1 hcore]
    exact hcause
  · intro hcause
    exact .given hvalue (Text.stripped_trimmed _) hcause

end Found

/-- Reading a setting gives what it is, -/
theorem readSetting_eq_ok_iff :
    readSetting lookup setting setting.limit setting.default = .ok n ↔ Says lookup setting n := by
  unfold readSetting
  cases hvalue : lookup setting.key with
  | none =>
    rw [Except.ok.injEq]
    constructor
    · rintro rfl
      exact .absent hvalue
    · intro h
      cases h with
      | absent _ => rfl
      | given h _ _ _ =>
        rw [hvalue] at h
        cases h
  | some value =>
    simp only [says_iff_count hvalue]
    cases Text.count setting.limit (Text.trimmed value.toList) <;> simp [Except.mapError]

/-- or what is wrong with what is found, and under which key it is. -/
theorem readSetting_eq_error_iff :
    readSetting lookup setting setting.limit setting.default = .error d ↔
      ∃ cause, Offends lookup setting cause ∧ d = .unreadable setting.key cause := by
  unfold readSetting
  cases hvalue : lookup setting.key with
  | none =>
    constructor
    · intro h
      cases h
    · rintro ⟨cause, ⟨h, -, -⟩, -⟩
      rw [hvalue] at h
      cases h
  | some value =>
    simp only [offends_iff_count hvalue]
    cases Text.count setting.limit (Text.trimmed value.toList) <;>
      simp [Except.mapError, eq_comm]

theorem Says.unique {m : Nat} (h : Says lookup setting n) (h' : Says lookup setting m) : n = m := by
  have hread := readSetting_eq_ok_iff.2 h
  rw [readSetting_eq_ok_iff.2 h', Except.ok.injEq] at hread
  exact hread.symm

theorem Offends.not_says (h : Offends lookup setting cause) : ¬ Says lookup setting n := by
  intro h'
  have hread := readSetting_eq_ok_iff.2 h'
  rw [readSetting_eq_error_iff.2 ⟨cause, h, rfl⟩] at hread
  cases hread

theorem Offends.unique (h : Offends lookup setting cause) (h' : Offends lookup setting cause') :
    cause = cause' := by
  have hread := readSetting_eq_error_iff.2 ⟨cause, h, rfl⟩
  rw [readSetting_eq_error_iff.2 ⟨cause', h', rfl⟩] at hread
  cases hread
  rfl

end Reading

/-! ## 2. All settings -/

/-- Of these settings, read in this order, the first that offends, and how. -/
inductive FirstOffence (lookup : String → Option String) :
    List Setting → Setting → Text.CountDefect → Prop
  | here {setting : Setting} {rest : List Setting} {cause : Text.CountDefect}
    (h : Offends lookup setting cause) : FirstOffence lookup (setting :: rest) setting cause
  | later {setting other : Setting} {rest : List Setting} {cause : Text.CountDefect} {n : Nat}
    (hsaid : Says lookup setting n) (h : FirstOffence lookup rest other cause) :
    FirstOffence lookup (setting :: rest) other cause

/-- Why the named values make no configuration. -/
inductive Refused (lookup : String → Option String) : Defect → Prop
  | unreadable {setting : Setting} {cause : Text.CountDefect}
    (h : FirstOffence lookup Setting.order setting cause) :
    Refused lookup (.unreadable setting.key cause)
  | zeroTimeout (hread : ∀ setting, ∃ n, Says lookup setting n)
    (hzero : Says lookup .defaultTimeout 0) : Refused lookup .zeroTimeout

section Lookup

variable {lookup : String → Option String} {c : Config} {d d' : Defect} {settings : List Setting}
  {setting setting' : Setting} {cause cause' : Text.CountDefect}

theorem readFrom_iff : c.ReadFrom lookup ↔ ∀ setting, Says lookup setting (c.get setting) := by
  constructor
  · intro h setting
    refine readSetting_eq_ok_iff.1 ?_
    cases setting with
    | pollInterval => exact h.pollInterval
    | minPollInterval => exact h.minPollInterval
    | jobPollInterval => exact h.jobPollInterval
    | retries => exact h.retries
    | retryDelay => exact h.retryDelay
    | defaultTimeout => exact h.defaultTimeout
  · intro h
    have hread (setting : Setting) := readSetting_eq_ok_iff.2 (h setting)
    exact ⟨hread .retries, hread .pollInterval, hread .minPollInterval, hread .jobPollInterval,
      hread .retryDelay, hread .defaultTimeout⟩

/-- An offence is by one of the settings. -/
theorem FirstOffence.offends (h : FirstOffence lookup settings setting cause) :
    Offends lookup setting cause := by
  induction h with
  | here h => exact h
  | later _ _ ih => exact ih

/-- There is one first offence. -/
theorem FirstOffence.unique (h : FirstOffence lookup settings setting cause)
    (h' : FirstOffence lookup settings setting' cause') : setting = setting' ∧ cause = cause' := by
  induction h with
  | here h =>
    cases h' with
    | here h' => exact ⟨rfl, h.unique h'⟩
    | later hsaid _ => exact absurd hsaid h.not_says
  | later hsaid _ ih =>
    cases h' with
    | here h' => exact absurd hsaid h'.not_says
    | later _ h' => exact ih h'

/-- If a setting offends, not all of them can be read. -/
theorem FirstOffence.not_read (h : FirstOffence lookup settings setting cause)
    (hread : ∀ setting, ∃ n, Says lookup setting n) : False := by
  obtain ⟨n, hsaid⟩ := hread setting
  exact h.offends.not_says hsaid

theorem Refused.unique (h : Refused lookup d) (h' : Refused lookup d') : d = d' := by
  cases h with
  | unreadable h =>
    cases h' with
    | unreadable h' =>
      obtain ⟨rfl, rfl⟩ := h.unique h'
      rfl
    | zeroTimeout hread _ => exact absurd hread h.not_read
  | zeroTimeout hread _ =>
    cases h' with
    | unreadable h' => exact absurd hread h'.not_read
    | zeroTimeout _ _ => rfl

/-- A reading that comes to nothing ends with this setting, or goes on after it. -/
theorem offends_or_says {α : Type} {f : Nat → Except Defect α}
    (h : readSetting lookup setting setting.limit setting.default >>= f = .error d) :
    (∃ cause, Offends lookup setting cause ∧ d = .unreadable setting.key cause) ∨
      ∃ n, Says lookup setting n ∧ f n = .error d := by
  rcases Except.bind_eq_error_iff.1 h with h | ⟨n, hread, h⟩
  · exact .inl (readSetting_eq_error_iff.1 h)
  · exact .inr ⟨n, readSetting_eq_ok_iff.1 hread, h⟩

/-- The settings are read in order, so what ends the reading is the first offence, and the check on
the default timeout comes after all of them. -/
theorem refused_of_ofLookup (h : ofLookup lookup = .error d) : Refused lookup d := by
  unfold ofLookup at h
  rcases offends_or_says h with ⟨cause, hoffends, rfl⟩ | ⟨retries, hretries, h⟩
  · exact .unreadable (.here hoffends)
  rcases offends_or_says h with ⟨cause, hoffends, rfl⟩ | ⟨pollInterval, hpoll, h⟩
  · exact .unreadable (.later hretries (.here hoffends))
  rcases offends_or_says h with ⟨cause, hoffends, rfl⟩ | ⟨minPollInterval, hmin, h⟩
  · exact .unreadable (.later hretries (.later hpoll (.here hoffends)))
  rcases offends_or_says h with ⟨cause, hoffends, rfl⟩ | ⟨jobPollInterval, hjob, h⟩
  · exact .unreadable (.later hretries (.later hpoll (.later hmin (.here hoffends))))
  rcases offends_or_says h with ⟨cause, hoffends, rfl⟩ | ⟨retryDelay, hdelay, h⟩
  · exact .unreadable
      (.later hretries (.later hpoll (.later hmin (.later hjob (.here hoffends)))))
  rcases offends_or_says h with ⟨cause, hoffends, rfl⟩ | ⟨defaultTimeout, htimeout, h⟩
  · exact .unreadable (.later hretries
      (.later hpoll (.later hmin (.later hjob (.later hdelay (.here hoffends))))))
  by_cases hzero : defaultTimeout = 0
  · rw [if_pos hzero] at h
    cases h
    rw [hzero] at htimeout
    refine .zeroTimeout (fun setting => ?_) htimeout
    cases setting with
    | pollInterval => exact ⟨_, hpoll⟩
    | minPollInterval => exact ⟨_, hmin⟩
    | jobPollInterval => exact ⟨_, hjob⟩
    | retries => exact ⟨_, hretries⟩
    | retryDelay => exact ⟨_, hdelay⟩
    | defaultTimeout => exact ⟨_, htimeout⟩
  · rw [if_neg hzero] at h
    cases h

/-- What is refused is no configuration. -/
theorem Refused.ne_ok (h : Refused lookup d) : ofLookup lookup ≠ .ok c := by
  intro hok
  obtain ⟨hread, hsome⟩ := ofLookup_eq_ok_iff.1 hok
  have hsaid := readFrom_iff.1 hread
  cases h with
  | unreadable h => exact h.not_read fun setting => ⟨_, hsaid setting⟩
  | zeroTimeout _ hzero => exact hsome ((hsaid .defaultTimeout).unique hzero)

theorem ofLookup_eq_error_iff : ofLookup lookup = .error d ↔ Refused lookup d := by
  constructor
  · exact refused_of_ofLookup
  · intro h
    cases hresult : ofLookup lookup with
    | ok c => exact absurd hresult h.ne_ok
    | error d' => rw [(refused_of_ofLookup hresult).unique h]

/-- What a setting is depends on nothing but what is found under its key. -/
theorem Says.congr {lookup' : String → Option String} {n : Nat} (h : Says lookup setting n)
    (hsame : lookup' setting.key = lookup setting.key) : Says lookup' setting n := by
  cases h with
  | absent h => exact .absent (hsame.trans h)
  | given h hcore hnumber hlimit => exact .given (hsame.trans h) hcore hnumber hlimit

/-- A configuration is accepted if every setting can be read and the default timeout is some
time, -/
theorem accepted_iff :
    (∃ c, ofLookup lookup = .ok c) ↔
      (∀ setting, ∃ n, Says lookup setting n) ∧ ¬ Says lookup .defaultTimeout 0 := by
  constructor
  · rintro ⟨c, h⟩
    obtain ⟨hread, hsome⟩ := ofLookup_eq_ok_iff.1 h
    have hsaid := readFrom_iff.1 hread
    refine ⟨fun setting => ⟨_, hsaid setting⟩, fun hzero => ?_⟩
    exact hsome ((hsaid .defaultTimeout).unique hzero)
  · rintro ⟨hread, hsome⟩
    cases hresult : ofLookup lookup with
    | ok c => exact ⟨c, rfl⟩
    | error d =>
      cases refused_of_ofLookup hresult with
      | unreadable h => exact absurd hread h.not_read
      | zeroTimeout _ hzero => exact absurd hzero hsome

/-- and then its settings are as they were read. -/
theorem get_eq_iff {n : Nat} (h : ofLookup lookup = .ok c) :
    c.get setting = n ↔ Says lookup setting n := by
  have hsaid := readFrom_iff.1 (ofLookup_eq_ok_iff.1 h).1 setting
  constructor
  · rintro rfl
    exact hsaid
  · intro hn
    exact hsaid.unique hn

/-- The error of a configuration that is refused. -/
theorem mapError_ofLookup_iff {e : Error} :
    (ofLookup lookup).mapError Defect.error = .error e ↔ ∃ d, Refused lookup d ∧ e = d.error := by
  simp only [← ofLookup_eq_error_iff]
  cases ofLookup lookup <;> simp [Except.mapError, eq_comm]

end Lookup

/-! ## 3. Reading a configuration -/

/-- What can be relied on when a configuration is read from named values. -/
structure LookupsRead : Prop where
  /-- It is accepted if every setting can be read and the default timeout is some time. -/
  accepted : ∀ lookup, (∃ c, ofLookup lookup = .ok c) ↔
    (∀ setting, ∃ n, Says lookup setting n) ∧ ¬ Says lookup .defaultTimeout 0
  /-- Then its settings are as they were read, -/
  settings : ∀ lookup c, ofLookup lookup = .ok c → ∀ setting n,
    c.get setting = n ↔ Says lookup setting n
  /-- each from a key of its own, -/
  keys : Function.Injective Setting.key
  /-- and none depends on what is found under another key. -/
  independent : ∀ lookup lookup' c c' setting, ofLookup lookup = .ok c →
    ofLookup lookup' = .ok c' → lookup' setting.key = lookup setting.key →
      c'.get setting = c.get setting
  /-- Otherwise the error is about the first setting that offends, or about the timeout if none
  does. -/
  refused : ∀ lookup e, (ofLookup lookup).mapError Defect.error = .error e ↔
    (∃ setting cause, FirstOffence lookup Setting.order setting cause ∧
      e = .configuration ("invalid " ++ setting.key ++ ": " ++ cause.message)) ∨
    ((∀ setting, ∃ n, Says lookup setting n) ∧ Says lookup .defaultTimeout 0 ∧
      e = .configuration "CONVERGE_DEFAULT_TIMEOUT_MS must be greater than zero")

/-- **A configuration is accepted exactly if every value that is given is a number below its limit
and the default timeout is not zero, and otherwise the first offence is reported.** -/
theorem lookups_read : LookupsRead where
  accepted _ := accepted_iff
  settings _ _ h _ _ := get_eq_iff h
  keys := Setting.key_injective
  independent lookup lookup' c c' setting h h' hsame := by
    have hsaid : Says lookup setting (c.get setting) := (get_eq_iff h).1 rfl
    exact (get_eq_iff h').2 (hsaid.congr hsame)
  refused lookup e := by
    rw [mapError_ofLookup_iff]
    constructor
    · rintro ⟨d, hrefused, rfl⟩
      cases hrefused with
      | unreadable h => exact .inl ⟨_, _, h, rfl⟩
      | zeroTimeout hread hzero => exact .inr ⟨hread, hzero, rfl⟩
    · rintro (⟨setting, cause, h, rfl⟩ | ⟨hread, hzero, rfl⟩)
      · exact ⟨_, .unreadable h, rfl⟩
      · exact ⟨_, .zeroTimeout hread hzero, rfl⟩

end Config

end Settle
