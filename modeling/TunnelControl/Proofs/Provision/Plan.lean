/-
  TunnelControl.Proofs.Provision.Plan
  ───────────────────────────────────
  **WHAT A PLAN MAKES OF A FRESH DESCRIPTION.**

  A route is added as the prefix that its text names, for the text of a prefix
  is read as that prefix; a text that names none adds nothing, and nothing
  else depends on it.  What is described in the end is therefore told by the
  prefixes that the texts of the plan name.

    • `tryRoute_eq`, `foldl_tryRoute`, `tryDns_eq` — the steps that may fail,
    • `applyRoutes_eq`, `apply_empty`  — the whole plan,
    • `Applied`, `plans_are_applied_as_far_as_valid`.
-/
import TunnelControl.Proofs.Address.Network
import TunnelControl.Proofs.Address.PrefixSets
import TunnelControl.Proofs.Connection.Sound
import TunnelControl.Proofs.Outcomes
import TunnelControl.Provision.Provisioner

namespace TunnelControl

/-! ## §1. What texts name. -/

/-- The prefix that covers all IPv4 addresses. -/
def IpPrefix.everything : IpPrefix := ⟨.v4 ⟨#v[0, 0, 0, 0]⟩, 0, Nat.zero_le _⟩

theorem IpPrefix.parse_everything : parse "0.0.0.0" 0 = .ok everything := everything.parse_text

/-- The prefix that a text names, if it names one. -/
def IpPrefix.named? (text : String) : Option IpPrefix := (ofCidr text).toOption

theorem IpPrefix.named?_eq_some_iff {text : String} {p : IpPrefix} :
    named? text = some p ↔ ofCidr text = .ok p := toOption_eq_some_iff

/-- The address that a text names, if it names one. -/
def IpAddress.named? (text : String) : Option IpAddress := (parse text).toOption

theorem IpAddress.named?_eq_some_iff {text : String} {a : IpAddress} :
    named? text = some a ↔ parse text = .ok a := toOption_eq_some_iff

namespace InterfacePlan

/-- The routes that a plan names, in the order in which they are added. -/
def routePrefixes (plan : InterfacePlan) : List IpPrefix :=
  (plan.utilitySubnet.bind IpPrefix.named?).toList
    ++ IpPrefix.everything :: plan.routes.filterMap IpPrefix.named?

/-- What a plan describes, with its tunnel address. -/
def described (plan : InterfacePlan) (address : IpPrefix) : InterfaceSpec where
  mtu := some plan.mtu
  addresses := [address]
  routes := PrefixSet.ofList plan.routePrefixes
  dnsServers := (plan.dns.bind IpAddress.named?).toList

/-! ## §2. Steps. -/

variable {s : InterfaceSpec}

/-- A route is added as the prefix that it names. -/
theorem tryRoute_eq (cidr : String) (s : InterfaceSpec) :
    tryRoute cidr s
      = { s with routes := PrefixSet.addAll (IpPrefix.named? cidr).toList s.routes } := by
  unfold tryRoute IpPrefix.named?
  cases IpPrefix.ofCidr cidr with
  | ok p =>
      show (s.addRoute p.address.text p.length).toOption.getD s = _
      unfold InterfaceSpec.addRoute
      rw [p.parse_text]
      rfl
  | error cause => rfl

/-- **A route that is not valid leaves the other ones as they are.** -/
theorem foldl_tryRoute (routes : List String) (s : InterfaceSpec) :
    routes.foldl (fun s route => tryRoute route s) s
      = { s with routes := PrefixSet.addAll (routes.filterMap IpPrefix.named?) s.routes } := by
  induction routes generalizing s with
  | nil => rfl
  | cons route routes ih =>
      rw [List.foldl_cons, ih, tryRoute_eq, List.filterMap_cons]
      cases IpPrefix.named? route <;> rfl

/-- The first DNS server is the address that is named. -/
theorem tryDns_eq (address : String) (first : s.dnsServers = []) :
    tryDns address s = { s with dnsServers := (IpAddress.named? address).toList } := by
  unfold tryDns InterfaceSpec.addDns IpAddress.named?
  cases IpAddress.parse address with
  | ok a => simp [first, Except.toOption]
  | error cause => simp [← first, Except.toOption]

/-- A step that is taken if its text is given. -/
def optionally (step : String → InterfaceSpec → InterfaceSpec) (text : Option String)
    (s : InterfaceSpec) : InterfaceSpec :=
  match given text with
  | some t => step t s
  | none => s

/-- The empty text names nothing, so it may be left out. -/
theorem given_bind {α : Type} {name : String → Option α} (empty : name "" = none)
    (text : Option String) : (given text).bind name = text.bind name := by
  cases text with
  | none => rfl
  | some t =>
      by_cases blank : t = ""
      · subst blank
        exact empty.symm
      · have kept : given (some t) = some t := Option.filter_some_pos (decide_eq_true blank)
        rw [kept]

theorem optionally_tryRoute (text : Option String) (s : InterfaceSpec) :
    optionally tryRoute text s
      = { s with routes := PrefixSet.addAll (text.bind IpPrefix.named?).toList s.routes } := by
  unfold optionally
  rw [← given_bind (by rfl)]
  cases given text with
  | none => rfl
  | some subnet => exact tryRoute_eq subnet s

theorem optionally_tryDns (text : Option String) (first : s.dnsServers = []) :
    optionally tryDns text s = { s with dnsServers := (text.bind IpAddress.named?).toList } := by
  unfold optionally
  rw [← given_bind (by rfl)]
  cases given text with
  | none => simp [← first]
  | some dns => exact tryDns_eq dns first

/-! ## §3. The whole plan. -/

theorem addRoute_everything (s : InterfaceSpec) :
    s.addRoute "0.0.0.0" 0
      = .ok { s with routes := PrefixSet.insert IpPrefix.everything s.routes } := by
  unfold InterfaceSpec.addRoute
  rw [IpPrefix.parse_everything]

/-- **The optional parts never fail.** -/
theorem applyRoutes_eq (plan : InterfacePlan) (first : s.dnsServers = []) :
    plan.applyRoutes s = .ok { s with
      routes := PrefixSet.addAll plan.routePrefixes s.routes
      dnsServers := (plan.dns.bind IpAddress.named?).toList } := by
  show ((optionally tryRoute plan.utilitySubnet s).addRoute "0.0.0.0" 0 >>= fun s =>
    .ok (optionally tryDns plan.dns (plan.routes.foldl (fun s route => tryRoute route s) s))) = _
  rw [optionally_tryRoute, addRoute_everything]
  show Except.ok (optionally tryDns plan.dns _) = _
  -- no step before the last one adds a server, so that one finds none
  rw [foldl_tryRoute, optionally_tryDns plan.dns (by exact first)]
  unfold routePrefixes
  rw [PrefixSet.addAll_append]
  rfl

/-- **A plan on a fresh description**: the MTU is looked at first, then the
address, and nothing else is ever refused. -/
theorem apply_empty (plan : InterfacePlan) :
    plan.apply .empty
      = if mtuInRange plan.mtu.toNat then
          match IpPrefix.ofCidr plan.tunnelIp with
          | .ok p => (.ok (), plan.described p)
          | .error cause => (.error (.address cause), { InterfaceSpec.empty with mtu := some plan.mtu })
        else (.error (.invalidMtu plan.mtu), .empty) := by
  unfold apply InterfaceSpec.setMtu
  by_cases range : mtuInRange plan.mtu.toNat = true
  · rw [if_pos range, if_pos range]
    dsimp only
    unfold applyAddress
    cases IpPrefix.ofCidr plan.tunnelIp with
    | error cause => rfl
    | ok p =>
        have address : ({ InterfaceSpec.empty with mtu := some plan.mtu }).addAddress
            p.address.text p.length
              = .ok { InterfaceSpec.empty with mtu := some plan.mtu, addresses := [p] } := by
          unfold InterfaceSpec.addAddress
          rw [p.parse_text]
          rfl
        dsimp only
        rw [address]
        dsimp only
        rw [applyRoutes_eq plan rfl]
        rfl
  · rw [if_neg range, if_neg range]

/-! ## §4. What is described. -/

theorem mem_routePrefixes {plan : InterfacePlan} {q : IpPrefix} :
    q ∈ plan.routePrefixes ↔ q = .everything
      ∨ (∃ subnet, plan.utilitySubnet = some subnet ∧ IpPrefix.ofCidr subnet = .ok q)
      ∨ ∃ route ∈ plan.routes, IpPrefix.ofCidr route = .ok q := by
  unfold routePrefixes
  rw [List.mem_append, List.mem_cons, Option.mem_toList, Option.bind_eq_some_iff,
    List.mem_filterMap, or_left_comm]
  simp only [IpPrefix.named?_eq_some_iff]

/-- What a description says after a plan, told by what the texts of the plan
name. -/
structure Describes (plan : InterfacePlan) (spec : InterfaceSpec) : Prop where
  mtu : spec.mtu = some plan.mtu
  /-- The tunnel address is the only one. -/
  address : ∃ p, IpPrefix.ofCidr plan.tunnelIp = .ok p ∧ spec.addresses = [p]
  /-- The routes stand in order, each once. -/
  ordered : PrefixSet.Ordered spec.routes
  /-- They are the default route and all that are valid, whatever the other
  ones are. -/
  routes : ∀ q, q ∈ spec.routes ↔ q = .everything
    ∨ (∃ subnet, plan.utilitySubnet = some subnet ∧ IpPrefix.ofCidr subnet = .ok q)
    ∨ ∃ route ∈ plan.routes, IpPrefix.ofCidr route = .ok q
  /-- A DNS server that is valid is the only one. -/
  server : ∀ dns a, plan.dns = some dns → IpAddress.parse dns = .ok a → spec.dnsServers = [a]
  /-- Without a valid one there is none. -/
  noServer : (∀ dns a, plan.dns = some dns → IpAddress.parse dns ≠ .ok a) → spec.dnsServers = []

theorem describes_described {plan : InterfacePlan} {p : IpPrefix}
    (address : IpPrefix.ofCidr plan.tunnelIp = .ok p) : plan.Describes (plan.described p) where
  mtu := rfl
  address := ⟨p, address, rfl⟩
  ordered := PrefixSet.ordered_ofList plan.routePrefixes
  routes := fun _ => PrefixSet.mem_ofList.trans mem_routePrefixes
  server := by
    intro dns a given valid
    show (plan.dns.bind IpAddress.named?).toList = [a]
    rw [given, Option.bind_some, IpAddress.named?_eq_some_iff.mpr valid]
    rfl
  noServer := by
    intro none
    have nothing : plan.dns.bind IpAddress.named? = .none := by
      rw [Option.bind_eq_none_iff]
      intro dns given
      rw [Option.eq_none_iff_forall_ne_some]
      intro a valid
      exact none dns a given (IpAddress.named?_eq_some_iff.mp valid)
    show (plan.dns.bind IpAddress.named?).toList = []
    rw [nothing]
    rfl

/-- **Neither the order nor the repetition of the routes matters.** -/
theorem described_congr {plan : InterfacePlan} {others : List String}
    (alike : ∀ route, route ∈ others ↔ route ∈ plan.routes) (p : IpPrefix) :
    { plan with routes := others }.described p = plan.described p := by
  have routes : PrefixSet.ofList { plan with routes := others }.routePrefixes
      = PrefixSet.ofList plan.routePrefixes := by
    refine PrefixSet.ofList_congr fun q => ?_
    rw [mem_routePrefixes, mem_routePrefixes]
    simp only [alike]
  unfold described
  rw [routes]

/-! ## §5. The main result. -/

/-- What becomes of a plan. -/
structure Applied (plan : InterfacePlan) (s : InterfaceSpec) : Prop where
  /-- It is refused for its MTU, and else for its address. -/
  refused : ∀ e, (plan.apply s).1 = .error e ↔
    (¬ (1280 ≤ plan.mtu.toNat ∧ plan.mtu.toNat ≤ 1500) ∧ e = .invalidMtu plan.mtu)
      ∨ ((1280 ≤ plan.mtu.toNat ∧ plan.mtu.toNat ≤ 1500)
        ∧ ∃ cause, IpPrefix.ofCidr plan.tunnelIp = .error cause ∧ e = .address cause)
  /-- In all other cases it succeeds. -/
  accepted : (plan.apply s).1 = .ok () ↔
    (1280 ≤ plan.mtu.toNat ∧ plan.mtu.toNat ≤ 1500) ∧ ∃ p, IpPrefix.ofCidr plan.tunnelIp = .ok p
  /-- Then it is described as far as it is valid. -/
  described : (plan.apply s).1 = .ok () → plan.Describes (plan.apply s).2
  /-- Neither the order nor the repetition of the routes matters. -/
  settled : ∀ others : List String, (∀ route, route ∈ others ↔ route ∈ plan.routes) →
    { plan with routes := others }.apply s = plan.apply s

theorem refused_empty (plan : InterfacePlan) (e : ProvisionError) :
    (plan.apply .empty).1 = .error e ↔
      (¬ mtuInRange plan.mtu.toNat = true ∧ e = .invalidMtu plan.mtu)
        ∨ (mtuInRange plan.mtu.toNat = true
          ∧ ∃ cause, IpPrefix.ofCidr plan.tunnelIp = .error cause ∧ e = .address cause) := by
  rw [apply_empty]
  by_cases range : mtuInRange plan.mtu.toNat = true
  · cases address : IpPrefix.ofCidr plan.tunnelIp with
    | ok p => simp [range]
    | error cause => simp [range, eq_comm]
  · simp [range, eq_comm]

theorem accepted_empty (plan : InterfacePlan) :
    (plan.apply .empty).1 = .ok () ↔
      mtuInRange plan.mtu.toNat = true ∧ ∃ p, IpPrefix.ofCidr plan.tunnelIp = .ok p := by
  rw [apply_empty]
  by_cases range : mtuInRange plan.mtu.toNat = true
  · cases address : IpPrefix.ofCidr plan.tunnelIp with
    | ok p => simp [range]
    | error cause => simp [range]
  · simp [range]

theorem applied_empty (plan : InterfacePlan) : plan.Applied .empty where
  refused := by
    intro e
    rw [← ConnectionConfig.mtuInRange_iff]
    exact plan.refused_empty e
  accepted := by
    rw [← ConnectionConfig.mtuInRange_iff]
    exact plan.accepted_empty
  described := by
    intro success
    obtain ⟨range, p, address⟩ := plan.accepted_empty.mp success
    rw [apply_empty, if_pos range, address]
    exact describes_described address
  settled := by
    intro others alike
    rw [apply_empty, apply_empty]
    simp only [described_congr alike]

/-- **A plan on a fresh builder is refused for its MTU or its address only**,
and what else it asks for is added as far as it is valid. -/
theorem plans_are_applied_as_far_as_valid {provisioner : Provisioner} {b : Builder}
    (fresh : provisioner.newBuilder = .ok b) (plan : InterfacePlan) : plan.Applied b.spec := by
  have empty : b.spec = .empty := by
    unfold Provisioner.newBuilder at fresh
    split at fresh
    next => cases fresh
    next => rw [← Except.ok.inj fresh]
  rw [empty]
  exact plan.applied_empty

/-- A route that is repeated counts once, and one that is not valid not at all. -/
theorem plan_with_faults_is_applied :
    let platform : Platform := ⟨"", fun _ => .ok (), fun _ => true⟩
    let provisioner := (Provisioner.initial.attach platform).2
    let builder : Builder := ⟨⟨0, platform⟩, 0, .empty⟩
    let plan : InterfacePlan :=
      ⟨"100.89.128.4/20", 1280, some "1.1.1", ["fd00::/8", "10.0.0.0/33", "10.0.0.0/8", "fd00::/8"],
        some ""⟩
    provisioner.newBuilder = .ok builder ∧ plan.Applied builder.spec
      ∧ ((plan.apply builder.spec).2.routes.map IpPrefix.text, (plan.apply builder.spec).2.dnsServers)
        = (["0.0.0.0/0", "10.0.0.0/8", "fd00::/8"], []) := by
  intro platform provisioner builder plan
  have described : ((plan.apply builder.spec).2.routes.map IpPrefix.text,
      (plan.apply builder.spec).2.dnsServers) = (["0.0.0.0/0", "10.0.0.0/8", "fd00::/8"], []) := by
    decide +kernel +revert
  have fresh : provisioner.newBuilder = .ok builder := rfl
  exact ⟨fresh, plans_are_applied_as_far_as_valid fresh plan, described⟩

end InterfacePlan

end TunnelControl
