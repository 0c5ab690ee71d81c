import ControlPlane.Proofs.Provider.Exchanges
import ControlPlane.Proofs.Topology.Convergence

/-!
# The type of a secondary

What type a load balancer is to have is read from its declaration in two places. Creating sends the
declared type, or the default if none is declared or an empty one; updating compares the declared
type, if one is declared, with that of the load balancer. So what was created for a declaration is
as updating wants it, unless the declared type is empty: then it was created with the default type
and is migrated to the empty one at once. Updating agrees with itself for every type, since types
are sent in lower case and lower-casing a second time changes nothing.

`Secondary.create_update_agree_iff` says this of any provider that stores the types that it is sent
(`Provider.StoresTypes`), and of the load balancers that a cloud in memory lists afterwards. The
proof turns on one fact: updating sends nothing at all exactly if the load balancer has the declared
type (`Secondary.update_eq_done_iff`).
-/

namespace ControlPlane

open Program hiding ofExcept

/-- The provider stores the types that it is sent: a load balancer that it has created or migrated
has the type of the request, and a new one is in the zone of the request. -/
structure Provider.StoresTypes {σ : Type} (p : Provider σ) : Prop where
  created : ∀ {zone name type addressId isPrivate tags left w b w'},
    p.answer (.createBalancer zone name type addressId isPrivate tags) left w = (.ok b, w') →
      b.zone = zone ∧ b.type = type
  migrated : ∀ {zone balancerId type left w b w'},
    p.answer (.migrateBalancer zone balancerId type) left w = (.ok b, w') → b.type = type

/-- A cloud on trial stores types, whatever disturbs it. -/
theorem Trial.provider_storesTypes : Trial.provider.StoresTypes where
  created {zone name type addressId isPrivate tags left w b w'} h := by
    obtain ⟨-, ⟨e, he, -⟩ | ⟨hanswer, -⟩⟩ :=
      Trial.answer_cases (.createBalancer zone name type addressId isPrivate tags) left w
    · rw [h] at he
      cases he
    · rw [h] at hanswer
      have hcreated := (Cloud.createBalancer_effect (Prod.ext hanswer.symm rfl)).1
      exact ⟨congrArg LoadBalancer.zone hcreated, congrArg LoadBalancer.type hcreated⟩
  migrated {zone balancerId type left w b w'} h := by
    obtain ⟨-, ⟨e, he, -⟩ | ⟨hanswer, -⟩⟩ :=
      Trial.answer_cases (.migrateBalancer zone balancerId type) left w
    · rw [h] at he
      cases he
    · rw [h] at hanswer
      obtain ⟨⟨old, -, hmigrated⟩, -⟩ :=
        Cloud.migrateBalancer_effect (Prod.ext hanswer.symm rfl)
      rw [hmigrated]

namespace Program

variable {σ : Type} {p : Provider σ} {deadline : Option Seconds} {x y : Session σ}

/-- A change that returns was made in a zone where there are load balancers. -/
theorem run_in_zone_eq_ok {s : Site} {zone : String} {r : Request} {a : r.Reply}
    (h : (s.checkZone zone >>= fun _ => request r).run p deadline x = (.ok a, y)) :
    s.checkZone zone = done () ∧ ∃ left w w', p.answer r left w = (.ok a, w') := by
  obtain ⟨_, x1, hcheck, hrequest⟩ := run_bind_eq_ok h
  obtain ⟨left, w', hanswer⟩ := run_request_eq_ok hrequest
  refine ⟨?_, left, x1.world, w', hanswer⟩
  unfold Site.checkZone at hcheck ⊢
  rw [run_ofExcept_eq_ok hcheck]
  rfl

end Program

namespace Secondary

variable {σ : Type} {p : Provider σ} {deadline : Option Seconds} {x x' : Session σ}
  {c c' : Cloud} {s : Scope} {b r : LoadBalancer} {d : BalancerSpec} {zone name : String}

/-- The load balancer with the private address that is declared for it. -/
def pinnedFor (d : BalancerSpec) (b : LoadBalancer) : LoadBalancer :=
  { b with privateAddress := d.privateAddress }

/-- Updating sends nothing exactly if no type is declared or the load balancer has the declared
one. -/
theorem update_eq_done_iff :
    update s b d = done (pinnedFor d b) ↔ ∀ t, d.type = some t → sameType t b.type = true := by
  cases update_steps s b d with
  | kept htype hp => exact iff_of_true hp htype
  -- To migrate it takes a request, or fails for the zone.
  | migrated t htype hdiffer hp =>
    refine iff_of_false (fun h => ?_) fun h => hdiffer (h t htype)
    rw [hp] at h
    unfold Site.migrateBalancer Site.checkZone at h
    cases hzone : s.site.region.checkZone s.site.balancerZones b.zone <;>
      (rw [hzone] at h; cases h)

/-- Updating a load balancer that has its private address already returns just that. -/
theorem update_pinned_eq_done_iff : update s (pinnedFor d b) d = done (pinnedFor d b) ↔
    ∀ t, d.type = some t → sameType t b.type = true :=
  update_eq_done_iff (b := pinnedFor d b)

/-- What creating returns was answered to a request with the resolved type. -/
theorem run_create (h : (create s zone name d).run p deadline x = (.ok b, x')) :
    s.site.checkZone zone = done () ∧ ∃ r addressId tags left w w',
      p.answer (.createBalancer zone name (Text.lower d.resolvedType) addressId s.balancersPrivate
        tags) left w = (.ok r, w') ∧ b = pinnedFor d r := by
  obtain ⟨step, heq, hstep⟩ := create_steps s zone name d
  rw [heq] at h
  obtain ⟨⟨z, type⟩, x1, hresolve, h1⟩ := run_bind_eq_ok h
  obtain ⟨-, rfl⟩ := BalancerSpec.resolve_eq_ok (run_ofExcept_eq_ok hresolve)
  -- The address, if one is pinned, is looked up before the request.
  have hsent : ∀ {addressId tags y z r}, (s.site.createBalancer zone name d.resolvedType addressId
      tags s.balancersPrivate).run p deadline y = (.ok r, z) →
      s.site.checkZone zone = done () ∧ ∃ r' addressId tags left w w',
        p.answer (.createBalancer zone name (Text.lower d.resolvedType) addressId
          s.balancersPrivate tags) left w = (.ok r', w') ∧ pinnedFor d r = pinnedFor d r' := by
    intro addressId tags y z r hcreate
    obtain ⟨hzone, left, w, w', hanswer⟩ := run_in_zone_eq_ok hcreate
    exact ⟨hzone, r, addressId, tags, left, w, w', hanswer, rfl⟩
  cases hstep (z, d.resolvedType) with
  | pinned address _ hp =>
    rw [hp] at h1
    obtain ⟨addressId, x2, -, h2⟩ := run_bind_eq_ok h1
    obtain ⟨r, x3, hcreate, hdone⟩ := run_bind_eq_ok h2
    cases hdone
    exact hsent hcreate
  | managed _ hp =>
    rw [hp] at h1
    obtain ⟨r, x2, hcreate, hdone⟩ := run_bind_eq_ok h1
    cases hdone
    exact hsent hcreate

/-- What creating returns has the declared type, unless that is empty. -/
theorem create_settles_iff (hp : p.StoresTypes)
    (h : (create s zone name d).run p deadline x = (.ok b, x')) :
    update s b d = done b ↔ d.type ≠ some "" := by
  obtain ⟨-, r, _, _, _, _, _, hanswer, rfl⟩ := run_create h
  rw [update_pinned_eq_done_iff, (hp.created hanswer).2]
  constructor
  · -- The default is sent for the empty type, and is another one.
    intro hsettled hempty
    have hdefault := hsettled "" hempty
    unfold BalancerSpec.resolvedType at hdefault
    rw [hempty] at hdefault
    revert hdefault
    decide +kernel
  · rintro hdeclared t ht
    exact sameType_resolved ht fun hempty => hdeclared (hempty ▸ ht)

/-- What was created for the empty type is migrated to it. -/
theorem create_migrates (hp : p.StoresTypes)
    (h : (create s zone name d).run p deadline x = (.ok b, x')) (hempty : d.type = some "")
    {τ : Type} (q : Provider τ) {deadline' : Option Seconds} {y : Session τ}
    (live : checkRun y.world.canceled (remaining deadline' y.world.now) = .ok ()) :
    ((update s b d).exchanges q deadline' y).map (·.request) = [.migrateBalancer zone b.id ""] := by
  have hunsettled : update s b d ≠ done b := fun hsettled =>
    (create_settles_iff hp h).1 hsettled hempty
  obtain ⟨hzone, r, _, _, _, _, _, hanswer, rfl⟩ := run_create h
  have hr : (pinnedFor d r).zone = zone := (hp.created hanswer).1
  -- Its type is not the empty one, or else the update would leave it alone.
  have hdiffers : sameType "" (pinnedFor d r).type ≠ true := by
    intro hsame
    refine hunsettled (update_pinned_eq_done_iff.2 fun t ht => ?_)
    rw [hempty] at ht
    rwa [← Option.some.inj ht]
  have hlower : Text.lower "" = "" := by decide +kernel
  have hupdate : update s (pinnedFor d r) d =
      send (.migrateBalancer zone (pinnedFor d r).id "") fun answer =>
        Program.ofExcept answer >>= fun v => done (pinnedFor d v) := by
    cases update_steps s (pinnedFor d r) d with
    | kept htype _ => exact absurd (htype "" hempty) hdiffers
    | migrated t htype _ hp =>
      obtain rfl : "" = t := Option.some.inj (hempty.symm.trans htype)
      rw [hp]
      unfold Site.migrateBalancer
      rw [hr, hzone, hlower]
      rfl
  rw [hupdate, exchanges_of_ok live, List.map_cons]
  refine congrArg (Request.migrateBalancer zone (pinnedFor d r).id "" :: ·) ?_
  rcases (y.call q deadline' (.migrateBalancer zone (pinnedFor d r).id "")).1 with e | v <;> rfl

/-- What updating returns has the declared type. -/
theorem update_settles (hp : p.StoresTypes)
    (h : (update s b d).run p deadline x = (.ok r, x')) : update s r d = done r := by
  cases update_steps s b d with
  | kept htype heq =>
    rw [heq] at h
    cases h
    exact update_pinned_eq_done_iff.2 htype
  -- The type was sent in lower case, and is the declared one all the same.
  | migrated t htype _ heq =>
    rw [heq] at h
    obtain ⟨v, x1, hmigrate, hdone⟩ := run_bind_eq_ok h
    obtain ⟨-, left, w, w', hanswer⟩ := run_in_zone_eq_ok hmigrate
    cases hdone
    refine update_pinned_eq_done_iff.2 fun t' ht' => ?_
    obtain rfl : t = t' := Option.some.inj (htype.symm.trans ht')
    rw [hp.migrated hanswer]
    exact sameType_lower t

/-! ## As it is listed -/

/-- What is listed under the id of a load balancer that was created has its type. -/
theorem type_of_created (hc : c.Sound) (h : (create s zone name d).Returns c r c') :
    ∀ y ∈ c'.balancers, y.id = r.id → y.type = r.type := by
  intro y hy hid
  obtain ⟨b, rfl, hcreates⟩ := create_returns hc h
  have hb : b ∈ c'.balancers := by
    rw [hcreates.balancers]
    exact List.mem_concat_self
  rw [(hc.returns h).balancers.inj hy hb hid]

/-- What is listed under the id of a load balancer that was updated has its type. -/
theorem type_of_updated (hc : c.Sound) (hb : b ∈ c.balancers)
    (h : (update s b d).Returns c r c') : ∀ y ∈ c'.balancers, y.id = r.id → y.type = r.type := by
  intro y hy hid
  obtain ⟨t, rfl, -, rfl⟩ := update_returns hc hb h
  obtain ⟨z, hz, rfl⟩ := List.mem_map.1 hy
  by_cases hsame : z.id = b.id
  · rw [if_pos hsame]
  · rw [if_neg hsame] at hid
    exact absurd hid hsame

/-! ## Both -/

/-- When creating and updating agree on the type of a secondary, with any provider that stores the
types that it is sent. What creating returns for a declaration is left alone by updating, that is,
nothing is sent, exactly if the declared type is not the empty one; if it is, the load balancer is
migrated to the empty type. What updating returns is left alone by updating again, whatever the
type. In a cloud the same is true of the load balancer that is listed afterwards. -/
theorem create_update_agree_iff (hp : p.StoresTypes) (s : Scope) (d : BalancerSpec) :
    (∀ zone name deadline x b x', (create s zone name d).run p deadline x = (.ok b, x') →
      (update s b d = done b ↔ d.type ≠ some "") ∧
      (d.type = some "" → ∀ {τ : Type} (q : Provider τ) deadline' (y : Session τ),
        checkRun y.world.canceled (remaining deadline' y.world.now) = .ok () →
          ((update s b d).exchanges q deadline' y).map (·.request) =
            [.migrateBalancer zone b.id ""])) ∧
    (∀ b deadline x r x', (update s b d).run p deadline x = (.ok r, x') →
      update s r d = done r) ∧
    ∀ c r c', c.Sound → ((∃ zone name, (create s zone name d).Returns c r c') ∨
        ∃ b ∈ c.balancers, (update s b d).Returns c r c') →
      ∀ y ∈ c'.balancers, y.id = r.id →
        (update s y d = done (pinnedFor d y) ↔ update s r d = done (pinnedFor d r)) := by
  refine ⟨fun zone name deadline x b x' h => ⟨create_settles_iff hp h, ?_⟩,
    fun b deadline x r x' h => update_settles hp h, ?_⟩
  · intro hempty τ q deadline' y live
    exact create_migrates hp h hempty q live
  · intro c r c' hc h y hy hid
    -- What the cloud has under the identifier is of the type that was returned.
    have htype : y.type = r.type := by
      rcases h with ⟨zone, name, h⟩ | ⟨b, hb, h⟩
      · exact type_of_created hc h y hy hid
      · exact type_of_updated hc hb h y hy hid
    rw [update_eq_done_iff, update_eq_done_iff, htype]

/-- A secondary that declares the empty type is created with the default type and then migrated. -/
theorem sample_empty_type :
    let s := Sample.scope []
    let d : BalancerSpec := { type := some "" }
    let x : Session Trial := { world := ⟨{ cloud := {} }, 1000, false⟩ }
    ∃ b x', (create s "fr-par-1" "demo-0" d).run Trial.provider none x = (.ok b, x') ∧
      b.type = "lb-s" ∧ update s b d ≠ done b ∧
      ((update s b d).exchanges Trial.provider none x').map (·.request) =
        [.migrateBalancer "fr-par-1" b.id ""] := by
  intro s d x
  obtain ⟨b, x', h, htype, live⟩ : ∃ b x',
      (create s "fr-par-1" "demo-0" d).run Trial.provider none x = (.ok b, x') ∧ b.type = "lb-s" ∧
        checkRun x'.world.canceled (remaining none x'.world.now) = .ok () :=
    ⟨_, _, rfl, by decide +kernel, rfl⟩
  obtain ⟨hcreated, -, -⟩ := create_update_agree_iff Trial.provider_storesTypes s d
  obtain ⟨hsettled, hmigrates⟩ := hcreated "fr-par-1" "demo-0" none x b x' h
  refine ⟨b, x', h, htype, mt hsettled.1 (not_not_intro rfl), ?_⟩
  exact hmigrates rfl Trial.provider none x' live

end Secondary

end ControlPlane
