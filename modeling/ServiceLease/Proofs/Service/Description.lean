import ServiceLease.Proofs.Service.Config
import ServiceLease.Proofs.Value

/-! Objects that describe services. Each service has an object of its own, which is read as that service again;
and of any object only the members under the names of this one are read. -/
namespace ServiceLease

theorem Members.checked_congr {α : Type} {a b : Members} {name : String} (same : a.lookup name = b.lookup name)
    (absent : Option α) (test : Value → Except Complaint α) :
    a.checked name absent test = b.checked name absent test := by
  unfold checked
  rw [same]

namespace Settings

def memberNames : List String := ["renewalIntervalInSecs", "durationInSecs"]

theorem check_toValue (s : Settings) : check s.toValue = .valid s := by
  obtain ⟨renewalInterval, duration⟩ := s
  cases renewalInterval <;> cases duration <;> rfl

theorem check_of_retouched {a b : Members} (retouched : Members.Retouched memberNames a b) :
    check (.object a) = check (.object b) := by
  have same {name : String} (known : name ∈ memberNames) : a.lookup name = b.lookup name :=
    Members.lookup_of_retouched retouched known
  have interval : a.lookup Field.renewalInterval.wireName = b.lookup Field.renewalInterval.wireName := same (by decide)
  have duration : a.lookup Field.duration.wireName = b.lookup Field.duration.wireName := same (by decide)
  rw [check, check, checkMembers, checkMembers, Members.checked_congr interval, Members.checked_congr duration]

end Settings

namespace Service

def memberNames : List String :=
  ["serviceName", "healthEndpointPath", "infoEndpointPath", "httpPort", "securePort", "hostName", "dataCenterInfoName",
    "sslPreferred", "leaseInfo"]

/-- What is read of the object of a service is the service. -/
theorem ofValue_toValue (s : Service) : ofValue s.toValue = .ok s := by
  have settings : (Settings.check s.settings.toValue).under Lease.rootName = .valid s.settings :=
    Checked.under_eq_valid_iff.2 s.settings.check_toValue
  have valid : check s.toValue = .valid s :=
    checkMembers_eq_valid_iff.2 ⟨rfl, rfl, rfl, rfl, rfl, rfl, rfl, rfl, settings⟩
  rw [ofValue, valid]

/-- Two objects of which the same is read: they differ in members under other names than the nine and in the order,
and so do the objects of the settings inside them. -/
inductive Retouched : Members → Members → Prop where
  | outer {a b : Members} : Members.Retouched memberNames a b → Retouched a b
  | inner {a b : Members} (before after : Members) : Members.Retouched Settings.memberNames a b →
      Retouched (before ++ ("leaseInfo", .object a) :: after) (before ++ ("leaseInfo", .object b) :: after)
  | trans {a b c : Members} : Retouched a b → Retouched b c → Retouched a c

/-- Two objects with the same values under all names but that of the settings, and with the same settings. -/
structure Alike (a b : Members) : Prop where
  named : ∀ name ∈ memberNames, name ≠ Lease.rootName → a.lookup name = b.lookup name
  settings : nested a = nested b

theorem nested_congr {a b : Members} (same : a.lookup Lease.rootName = b.lookup Lease.rootName) :
    nested a = nested b := by
  unfold nested
  rw [same]

theorem alike_of_retouched {a b : Members} (retouched : Retouched a b) : Alike a b := by
  induction retouched with
  | outer same =>
    constructor
    · exact fun name known _ => Members.lookup_of_retouched same known
    · exact nested_congr (Members.lookup_of_retouched same (by decide))
  | inner before after same =>
    have settings := Settings.check_of_retouched same
    constructor
    · intro name _ apart
      have other : name ≠ "leaseInfo" := apart
      rw [Members.lookup_middle, Members.lookup_middle, if_neg other, if_neg other]
    · unfold nested
      rw [Members.lookup_middle, Members.lookup_middle]
      cases before.lookup Lease.rootName with
      | some v => rfl
      | none => exact congrArg (Checked.under Lease.rootName) settings
  | trans _ _ first second =>
    exact ⟨fun name known apart => (first.named name known apart).trans (second.named name known apart),
      first.settings.trans second.settings⟩

theorem checkMembers_of_alike {a b : Members} (alike : Alike a b) : checkMembers a = checkMembers b := by
  have same {α : Type} {name : String} {absent : Option α} {test : Value → Except Complaint α}
      (known : name ∈ memberNames) (apart : name ≠ Lease.rootName) :
      a.checked name absent test = b.checked name absent test :=
    Members.checked_congr (alike.named name known apart) absent test
  simp (disch := decide) only [checkMembers, same]
  exact congrArg (fun settings => _ <*> settings) alike.settings

/-- A service is read from its own object, which holds all nine members, as it is: nothing is made of its values a
second time. Of any object only the members under the nine names are read, and inside the settings those under the
two, in any order: what else there is shows neither in the service nor in the issues that are reported. Objects that
agree under some names come from one another by adding, leaving out and reordering members, and in no other way. -/
theorem description_normal :
    (∀ v s, ofValue v = .ok s → ofValue s.toValue = .ok s) ∧
    (∀ s : Service, ∃ given : Members, s.toValue = .object given ∧ given.map Prod.fst = memberNames) ∧
    (∀ a b, Retouched a b → ofValue (.object b) = ofValue (.object a)) ∧
    ∀ (names : List String) (a b : Members), (a.map Prod.fst).Nodup → (b.map Prod.fst).Nodup →
      (Members.Retouched names a b ↔ ∀ name ∈ names, a.lookup name = b.lookup name) := by
  refine ⟨fun v s _ => ofValue_toValue s, fun s => ⟨_, rfl, rfl⟩, fun a b retouched => ?_, ?_⟩
  · have same : check (.object a) = check (.object b) := checkMembers_of_alike (alike_of_retouched retouched)
    rw [ofValue, ofValue, same]
  · exact fun names a b once once' => Members.retouched_iff once once'

def loose (port duration : Value) : Members :=
  [("note", .null), ("leaseInfo", .object [("durationInSecs", duration), ("timeout", .list []),
    ("renewalIntervalInSecs", .null)]), ("sslPreferred", .text "ON"), ("hostName", .text "b"), ("httpPort", port),
    ("infoEndpointPath", .text ""), ("healthEndpointPath", .text ""), ("serviceName", .text "a")]

def tidy (port duration : Value) : Members :=
  [("serviceName", .text "a"), ("healthEndpointPath", .text ""), ("infoEndpointPath", .text ""), ("httpPort", port),
    ("hostName", .text "b"), ("sslPreferred", .text "ON"),
    ("leaseInfo", .object [("renewalIntervalInSecs", .null), ("durationInSecs", duration)])]

theorem retouched_tidy (port duration : Value) : Retouched (loose port duration) (tidy port duration) := by
  have settings : Members.Retouched Settings.memberNames
      [("durationInSecs", duration), ("timeout", .list []), ("renewalIntervalInSecs", .null)]
      [("renewalIntervalInSecs", .null), ("durationInSecs", duration)] := by
    refine .trans (.symm (.added (.list []) [("durationInSecs", duration)] _ (by decide))) ?_
    exact .reordered (by simp) (.swap _ _ _)
  refine .trans (.inner [("note", .null)] _ settings) (.outer ?_)
  refine .trans (.symm (.added .null [] _ (by decide))) ?_
  exact .reordered (by simp) (List.reverse_perm (tidy port duration)).symm

def normal : Service := ⟨"a", "", "", 80, 443, "b", "MyOwn", true, ⟨none, some (-5)⟩⟩

theorem description_normal_loose :
    (ofValue (.object (loose (.text " +8_0.0") (.int (-5)))) = .ok normal ∧ ofValue normal.toValue = .ok normal) ∧
    Retouched (loose (.float .nan) (.text "soon")) (tidy (.float .nan) (.text "soon")) ∧
    ofValue (.object (tidy (.float .nan) (.text "soon"))) = .error (.rejected .service
      [⟨["httpPort"], .notFinite⟩, ⟨["leaseInfo", "durationInSecs"], .unreadableInteger⟩]) := by
  have accepted : ofValue (.object (loose (.text " +8_0.0") (.int (-5)))) = .ok normal := rfl
  have refused : ofValue (.object (loose (.float .nan) (.text "soon"))) = .error (.rejected .service
      [⟨["httpPort"], .notFinite⟩, ⟨["leaseInfo", "durationInSecs"], .unreadableInteger⟩]) := rfl
  have retouched := retouched_tidy (.float .nan) (.text "soon")
  obtain ⟨kept, -, unseen, -⟩ := description_normal
  exact ⟨⟨accepted, kept _ _ accepted⟩, retouched, (unseen _ _ retouched).trans refused⟩

end Service

end ServiceLease
