import ControlPlane.Proofs.Cloud.Effects

/-!
# Clouds to start on

A cloud that was left alone refers to nothing that is yet to be made (`Cloud.Rooted`), so that
nothing hangs on a load balancer when it is new (`Cloud.Rooted.blank`).
-/

namespace ControlPlane

namespace Cloud

/-- Nothing refers to what is yet to be made. -/
structure Rooted (c : Cloud) : Prop where
  backends : ∀ k ∈ c.backends, ∀ n, c.nextId ≤ n → k.balancerId ≠ numbered "lb" n
  frontends : ∀ f ∈ c.frontends, ∀ n, c.nextId ≤ n → f.balancerId ≠ numbered "lb" n
  rules : ∀ r ∈ c.rules, ∀ n, c.nextId ≤ n → r.frontendId ≠ numbered "frontend" n
  attachments : ∀ a ∈ c.attachments, ∀ n, c.nextId ≤ n → a.balancerId ≠ numbered "lb" n
  holders : ∀ a ∈ c.privateAddresses, ∀ n, c.nextId ≤ n → a.holder ≠ some (numbered "lb" n)

/-- Nothing hangs on a load balancer. -/
structure Blank (id : String) (c : Cloud) : Prop where
  backends : c.backends.filter (·.balancerId = id) = []
  frontends : c.frontends.filter (·.balancerId = id) = []
  attachments : c.attachments.filter (·.balancerId = id) = []
  privateAddresses : c.privateAddresses.filter (·.holder = some id) = []

/-- Nothing hangs on a load balancer that is yet to be made. -/
theorem Rooted.blank {c : Cloud} (h : c.Rooted) {n : Nat} (hn : c.nextId ≤ n) :
    Blank (numbered "lb" n) c where
  backends := List.filter_eq_nil_iff.2 fun k hk hid => h.backends k hk n hn (of_decide_eq_true hid)
  frontends := List.filter_eq_nil_iff.2 fun f hf hid =>
    h.frontends f hf n hn (of_decide_eq_true hid)
  attachments := List.filter_eq_nil_iff.2 fun a ha hid =>
    h.attachments a ha n hn (of_decide_eq_true hid)
  privateAddresses := List.filter_eq_nil_iff.2 fun a ha hid =>
    h.holders a ha n hn (of_decide_eq_true hid)

/-- A load balancer that has nothing below it keeps having nothing below it while a change leaves it
untouched. -/
theorem Blank.of_untouched {id : String} {c c' : Cloud} (h : Blank id c) (hc : Untouched id c c') :
    Blank id c' where
  backends := hc.backends.trans h.backends
  frontends := hc.frontends.trans h.frontends
  attachments := hc.attachments.trans h.attachments
  privateAddresses := hc.privateAddresses.trans h.privateAddresses

/-- Where nothing is of a kind, nothing is of a narrower one. -/
theorem filter_and_eq_nil {α : Type} {items : List α} {p q : α → Bool} (h : items.filter q = []) :
    (items.filter fun a => p a && q a) = [] := by
  rw [← List.filter_filter, h]
  rfl

end Cloud

end ControlPlane
