import Flipbook.Proofs.Settings.Readings

/-!
Profiles that share a store. A key of settings has one slash, so the last two slashes of a key of
the store tell where the name of the profile ends, whatever the name is.
-/

namespace Flipbook.Settings

variable {store : Store} {settings next : Settings} {profile other key another : String}

theorem eq_nil_of_separator {c : Char} {between after latter : List Char}
    (same : c :: after = between ++ c :: latter) (counts : after.count c = latter.count c) :
    between = [] := by
  cases between with
  | nil => rfl
  | cons d between =>
      rw [List.cons_append] at same
      obtain ⟨rfl, rfl⟩ := List.cons.inj same
      rw [List.count_append, List.count_cons_self] at counts
      omega

theorem append_separator_inj {c : Char} {before former after latter : List Char}
    (same : before ++ c :: after = former ++ c :: latter)
    (counts : after.count c = latter.count c) : before = former ∧ after = latter := by
  rcases List.append_eq_append_iff.mp same with ⟨between, rfl, rest⟩ | ⟨between, rfl, rest⟩
  · obtain rfl := eq_nil_of_separator rest counts
    exact ⟨(List.append_nil _).symm, (List.cons.inj rest).2⟩
  · obtain rfl := eq_nil_of_separator rest counts.symm
    exact ⟨List.append_nil _, (List.cons.inj rest).2.symm⟩

theorem count_slash (known : key ∈ keys) : key.toList.count '/' = 1 := by
  revert key
  decide

theorem toList_qualify (profile key : String) :
    (qualify profile key).toList = profile.toList ++ '/' :: key.toList := by
  simp [qualify]

theorem qualify_inj (known : key ∈ keys) (familiar : another ∈ keys)
    (same : qualify profile key = qualify other another) : profile = other ∧ key = another := by
  have texts := congrArg String.toList same
  rw [toList_qualify, toList_qualify] at texts
  obtain ⟨profiles, keys⟩ :=
    append_separator_inj texts ((count_slash known).trans (count_slash familiar).symm)
  exact ⟨String.toList_inj.mp profiles, String.toList_inj.mp keys⟩

theorem Writes.profile_eq (writes : Writes settings next) : next.profile = settings.profile := by
  induction writes with
  | none file => rfl
  | put before key known value ih => exact ih

theorem Writes.lookup?_eq (writes : Writes settings next) (distinct : settings.profile ≠ other)
    (known : key ∈ keys) :
    Keyed.lookup? (qualify other key) next.store =
      Keyed.lookup? (qualify other key) settings.store := by
  induction writes with
  | none file => rfl
  | put before another familiar value ih =>
      refine (Keyed.lookup?_set_of_ne ?_ _ _).trans ih
      intro same
      exact distinct (before.profile_eq ▸ (qualify_inj familiar known same).1)

variable [Limits]

theorem lookup?_afterAll (settings : Settings) (calls : List Call)
    (distinct : settings.profile ≠ other) (known : key ∈ keys) :
    Keyed.lookup? (qualify other key) (settings.afterAll calls).store =
      Keyed.lookup? (qualify other key) settings.store := by
  induction calls generalizing settings with
  | nil => rfl
  | cons call rest ih =>
      have writes := settings.writes_after call
      exact (ih _ (writes.profile_eq ▸ distinct)).trans (writes.lookup?_eq distinct known)

theorem openProfile_of_version {file text : String} {stored : Value}
    (version : settings.value? "app/version" = some stored) (written : stored.written = .ok text)
    (filled : text ≠ "") :
    openProfile settings.store settings.profile file = .ok { settings with file } := by
  have found : ({ settings with file } : Settings).value? "app/version" = some stored := version
  unfold openProfile
  dsimp only
  rw [found]
  simp only [written, Except.bind, bind, filled, if_false]
  rfl

/-- A store keeps what its profiles have apart. -/
structure KeepsProfiles (store : Store) : Prop where
  isolated : ∀ mine other : Settings, mine.store = store → other.store = store →
    mine.profile ≠ other.profile → ∀ calls : List Call,
      let later : Settings := { other with store := (mine.afterAll calls).store }
      later.readings = other.readings ∧ later.validate = other.validate
  reopened : ∀ settings : Settings, settings.store = store → ∀ stored text,
    settings.value? "app/version" = some stored → stored.written = .ok text → text ≠ "" →
      ∀ file, openProfile store settings.profile file = .ok { settings with file }

theorem keepsProfiles (store : Store) : KeepsProfiles store where
  isolated mine other held shared distinct calls := by
    have same : ({ other with store := (mine.afterAll calls).store } : Settings).readings =
        other.readings := by
      refine readings_congr rfl fun key known => ?_
      refine (mine.lookup?_afterAll calls distinct known).trans ?_
      rw [held, ← shared]
      rfl
    exact ⟨same, validate_congr same⟩
  reopened settings held stored text version written filled file := by
    subst held
    exact openProfile_of_version version written filled

end Flipbook.Settings
