/-
  TunnelControl.Proofs.Provision.Descriptions
  ───────────────────────────────────────────
  **WHAT A SEQUENCE OF CALLS DESCRIBES.**

  A call on a builder is accepted or refused for its argument alone, whatever
  was described before it.  So a description is told by the arguments that
  were accepted: the MTU by the last one, addresses and routes by their sets,
  DNS servers by the order in which they came first.

  A plan does nothing that single calls could not do.  Hence every description
  that a platform is asked for comes from calls, and since the claim checks it,
  it has an MTU in range and an address.

    • `Edit.IsValid`, `call_cases`   — accepted or refused,
    • `ofCalls`, `edited_empty`      — what is left of all calls,
    • `ByCalls`, `plan_byCalls`      — plans are calls,
    • `Job.Described`, `run_described` — the descriptions of a workshop,
    • `descriptions_follow_accepted_calls`.
-/
import Mathlib.Data.List.Induction
import TunnelControl.Proofs.Provision.Plan
import TunnelControl.Proofs.Provision.Steps

namespace TunnelControl

/-! ## §1. Single calls. -/

namespace IpPrefix

/-- A prefix is accepted if its address is one and its length fits that. -/
theorem parse_eq_ok_iff {a : String} {length : Nat} {p : IpPrefix} :
    parse a length = .ok p
      ↔ IpAddress.parse a = .ok p.address ∧ p.length = length := by
  unfold parse
  rw [bind_eq_ok_iff]
  constructor
  · rintro ⟨ip, named, paired⟩
    unfold of at paired
    split at paired
    next fits =>
      cases paired
      exact ⟨named, rfl⟩
    next => cases paired
  · rintro ⟨named, rfl⟩
    exact ⟨p.address, named, dif_pos p.length_le⟩

theorem exists_parse_iff {a : String} {length : Nat} :
    (∃ p, parse a length = .ok p)
      ↔ ∃ ip, IpAddress.parse a = .ok ip ∧ length ≤ ip.width := by
  constructor
  · rintro ⟨p, named⟩
    obtain ⟨address, rfl⟩ := parse_eq_ok_iff.mp named
    exact ⟨p.address, address, p.length_le⟩
  · rintro ⟨ip, address, fits⟩
    exact ⟨⟨ip, length, fits⟩, parse_eq_ok_iff.mpr ⟨address, rfl⟩⟩

end IpPrefix

namespace Edit

/-- A single call, and no plan. -/
def isCall : Edit → Bool
  | plan _ => false
  | _ => true

/-- A call that adds an address or a route. -/
def addsPrefix : Edit → Bool
  | address _ _ => true
  | route _ _ => true
  | _ => false

/-- The argument of a call is valid. -/
def IsValid : Edit → Prop
  | mtu n => 1280 ≤ n.toNat ∧ n.toNat ≤ 1500
  | address a length => ∃ ip, IpAddress.parse a = .ok ip ∧ length ≤ ip.width
  | route a length => ∃ ip, IpAddress.parse a = .ok ip ∧ length ≤ ip.width
  | dns a => ∃ ip, IpAddress.parse a = .ok ip
  | plan _ => False

/-- The MTU that a call sets, if it is accepted. -/
def mtu? : Edit → Option UInt32
  | mtu n => if 1280 ≤ n.toNat ∧ n.toNat ≤ 1500 then some n else none
  | _ => none

/-- The address that a call adds, if it is accepted. -/
def address? : Edit → Option IpPrefix
  | address a length => (IpPrefix.parse a length).toOption
  | _ => none

/-- The route that a call adds, if it is accepted. -/
def route? : Edit → Option IpPrefix
  | route a length => (IpPrefix.parse a length).toOption
  | _ => none

/-- The DNS server that a call names, if it is accepted. -/
def server? : Edit → Option IpAddress
  | dns a => (IpAddress.parse a).toOption
  | _ => none

theorem mtu?_eq_none {e : Edit} (adds : e.addsPrefix = true) : e.mtu? = none := by
  cases e with
  | address => rfl
  | route => rfl
  | mtu => cases adds
  | dns => cases adds
  | plan => cases adds

theorem server?_eq_none {e : Edit} (adds : e.addsPrefix = true) : e.server? = none := by
  cases e with
  | address => rfl
  | route => rfl
  | mtu => cases adds
  | dns => cases adds
  | plan => cases adds

theorem mtu?_eq_some_iff {e : Edit} {n : UInt32} :
    e.mtu? = some n ↔ e = .mtu n ∧ 1280 ≤ n.toNat ∧ n.toNat ≤ 1500 := by
  cases e with
  | mtu m =>
      unfold mtu?
      rw [Option.ite_none_right_eq_some, mtu.injEq, Option.some.injEq, and_comm]
      exact and_congr_right fun same => by rw [same]
  | address => simp [mtu?]
  | route => simp [mtu?]
  | dns => simp [mtu?]
  | plan => simp [mtu?]

theorem address?_eq_some_iff {e : Edit} {p : IpPrefix} :
    e.address? = some p ↔ ∃ a, e = .address a p.length ∧ IpAddress.parse a = .ok p.address := by
  cases e with
  | address a length =>
      unfold address?
      rw [toOption_eq_some_iff, IpPrefix.parse_eq_ok_iff]
      simp [eq_comm, and_comm]
  | mtu => simp [address?]
  | route => simp [address?]
  | dns => simp [address?]
  | plan => simp [address?]

theorem route?_eq_some_iff {e : Edit} {p : IpPrefix} :
    e.route? = some p ↔ ∃ a, e = .route a p.length ∧ IpAddress.parse a = .ok p.address := by
  cases e with
  | route a length =>
      unfold route?
      rw [toOption_eq_some_iff, IpPrefix.parse_eq_ok_iff]
      simp [eq_comm, and_comm]
  | mtu => simp [route?]
  | address => simp [route?]
  | dns => simp [route?]
  | plan => simp [route?]

end Edit

namespace InterfaceSpec

theorem orSelf_cases {s : InterfaceSpec} {outcome : Except ProvisionError InterfaceSpec}
    {valid : Prop} (accepted : (∃ s', outcome = .ok s') ↔ valid) :
    (valid ∧ (s.orSelf outcome).1 = .ok ())
      ∨ (¬ valid ∧ (∃ e, (s.orSelf outcome).1 = .error e) ∧ (s.orSelf outcome).2 = s) := by
  cases outcome with
  | ok s' => exact .inl ⟨accepted.mp ⟨s', rfl⟩, rfl⟩
  | error e =>
      refine .inr ⟨fun holds => ?_, ⟨e, rfl⟩, rfl⟩
      obtain ⟨s', impossible⟩ := accepted.mpr holds
      cases impossible

/-- **A call is accepted, or refused without effect**, and its argument alone
decides which. -/
theorem call_cases {e : Edit} (call : e.isCall = true) (s : InterfaceSpec) :
    (e.IsValid ∧ (e.apply s).1 = .ok ())
      ∨ (¬ e.IsValid ∧ (∃ error, (e.apply s).1 = .error error) ∧ (e.apply s).2 = s) := by
  cases e with
  | plan p => cases call
  | mtu n =>
      refine orSelf_cases ?_
      show _ ↔ 1280 ≤ n.toNat ∧ n.toNat ≤ 1500
      unfold setMtu
      rw [← ConnectionConfig.mtuInRange_iff]
      split
      next range => simp [range]
      next range => simp [range]
  | address a length =>
      refine orSelf_cases ?_
      show _ ↔ ∃ ip, IpAddress.parse a = .ok ip ∧ length ≤ ip.width
      unfold addAddress
      rw [← IpPrefix.exists_parse_iff]
      cases IpPrefix.parse a length with
      | ok p => simp
      | error cause => simp
  | route a length =>
      refine orSelf_cases ?_
      show _ ↔ ∃ ip, IpAddress.parse a = .ok ip ∧ length ≤ ip.width
      unfold addRoute
      rw [← IpPrefix.exists_parse_iff]
      cases IpPrefix.parse a length with
      | ok p => simp
      | error cause => simp
  | dns a =>
      refine orSelf_cases ?_
      show _ ↔ ∃ ip, IpAddress.parse a = .ok ip
      unfold addDns
      cases IpAddress.parse a with
      | ok ip => simp
      | error cause => simp

/-- A server is added behind the others, unless it is there. -/
def withServer (servers : List IpAddress) : Option IpAddress → List IpAddress
  | some a => if a ∈ servers then servers else servers ++ [a]
  | none => servers

/-- **What a call changes**, told by what it adds if it is accepted. -/
theorem apply_call {e : Edit} (call : e.isCall = true) (s : InterfaceSpec) :
    (e.apply s).2 = {
      mtu := e.mtu?.or s.mtu
      addresses := PrefixSet.addAll e.address?.toList s.addresses
      routes := PrefixSet.addAll e.route?.toList s.routes
      dnsServers := withServer s.dnsServers e.server? } := by
  cases e with
  | plan p => cases call
  | mtu n =>
      show (s.orSelf (s.setMtu n)).2
        = { s with mtu := (if 1280 ≤ n.toNat ∧ n.toNat ≤ 1500 then some n else none).or s.mtu }
      unfold setMtu
      simp only [ConnectionConfig.mtuInRange_iff]
      split
      next => rfl
      next => rfl
  | address a length =>
      show (s.orSelf (s.addAddress a length)).2
        = { s with
            addresses := PrefixSet.addAll (IpPrefix.parse a length).toOption.toList s.addresses }
      unfold addAddress
      cases IpPrefix.parse a length with
      | ok p => rfl
      | error cause => rfl
  | route a length =>
      show (s.orSelf (s.addRoute a length)).2
        = { s with routes := PrefixSet.addAll (IpPrefix.parse a length).toOption.toList s.routes }
      unfold addRoute
      cases IpPrefix.parse a length with
      | ok p => rfl
      | error cause => rfl
  | dns a =>
      show (s.orSelf (s.addDns a)).2
        = { s with dnsServers := withServer s.dnsServers (IpAddress.parse a).toOption }
      unfold addDns
      cases IpAddress.parse a with
      | ok ip => rfl
      | error cause => rfl

/-! ## §2. All calls. -/

/-- What operations leave, one after the other. -/
def edited (edits : List Edit) (s : InterfaceSpec) : InterfaceSpec :=
  edits.foldl (fun s e => (e.apply s).2) s

theorem edited_append (before after : List Edit) (s : InterfaceSpec) :
    edited (before ++ after) s = edited after (edited before s) := List.foldl_append

/-- What calls describe, told by the arguments that are accepted. -/
def ofCalls (calls : List Edit) : InterfaceSpec where
  mtu := (calls.filterMap Edit.mtu?).getLast?
  addresses := PrefixSet.ofList (calls.filterMap Edit.address?)
  routes := PrefixSet.ofList (calls.filterMap Edit.route?)
  dnsServers := (calls.filterMap Edit.server?).eraseDups

theorem filterMap_concat {α β : Type} (f : α → Option β) (as : List α) (a : α) :
    (as ++ [a]).filterMap f = as.filterMap f ++ (f a).toList := by
  rw [List.filterMap_append]
  cases h : f a with
  | none => simp [h]
  | some b => simp [h]

/-- One more prefix in a list is one more in its set. -/
theorem ofList_append (ps qs : List IpPrefix) :
    PrefixSet.ofList (ps ++ qs) = PrefixSet.addAll qs (PrefixSet.ofList ps) :=
  PrefixSet.addAll_append ps qs []

/-- One more server in a list counts if it is a new one. -/
theorem eraseDups_append_toList (servers : List IpAddress) (server : Option IpAddress) :
    (servers ++ server.toList).eraseDups = withServer servers.eraseDups server := by
  rw [List.eraseDups_append]
  cases server with
  | none => exact List.append_nil _
  | some a =>
      by_cases listed : a ∈ servers
      · simp [withServer, List.removeAll, listed]
      · simp [withServer, List.removeAll, listed, List.eraseDups_cons]

/-- One call more. -/
theorem apply_ofCalls {e : Edit} (call : e.isCall = true) (calls : List Edit) :
    (e.apply (ofCalls calls)).2 = ofCalls (calls ++ [e]) := by
  rw [apply_call call]
  unfold ofCalls
  simp only [filterMap_concat, ofList_append, eraseDups_append_toList, List.getLast?_append]
  cases e.mtu? with
  | none => rfl
  | some n => rfl

/-- **What calls describe is told by the arguments that are accepted.** -/
theorem edited_empty {calls : List Edit} (single : ∀ e ∈ calls, e.isCall = true) :
    edited calls .empty = ofCalls calls := by
  induction calls using List.reverseRecOn with
  | nil => rfl
  | append_singleton before e ih =>
      have earlier : edited before .empty = ofCalls before :=
        ih fun e' listed => single e' (List.mem_append_left [e] listed)
      rw [edited_append, earlier]
      exact apply_ofCalls (single e (List.mem_append_right before (List.mem_singleton_self e))) before

/-- Without the calls that add addresses and routes, MTU and servers stay. -/
theorem filterMap_filter_of_none {β : Type} {f : Edit → Option β}
    (none : ∀ e, e.addsPrefix = true → f e = .none) (calls : List Edit) :
    (calls.filter fun e => !e.addsPrefix).filterMap f = calls.filterMap f := by
  rw [List.filterMap_filter]
  refine List.filterMap_congr fun e _ => ?_
  cases adds : e.addsPrefix with
  | false => rfl
  | true => exact (none e adds).symm

/-- **Neither the order nor the repetition of addresses and routes matters.** -/
theorem ofCalls_congr {calls others : List Edit}
    (rest : (others.filter fun e => !e.addsPrefix) = calls.filter fun e => !e.addsPrefix)
    (alike : ∀ e, e.addsPrefix = true → (e ∈ others ↔ e ∈ calls)) :
    ofCalls others = ofCalls calls := by
  have kept {β : Type} {f : Edit → Option β} (none : ∀ e, e.addsPrefix = true → f e = .none) :
      others.filterMap f = calls.filterMap f := by
    rw [← filterMap_filter_of_none none, rest, filterMap_filter_of_none none]
  have added {f : Edit → Option IpPrefix} (some : ∀ e q, f e = .some q → e.addsPrefix = true) :
      PrefixSet.ofList (others.filterMap f) = PrefixSet.ofList (calls.filterMap f) := by
    refine PrefixSet.ofList_congr fun q => ?_
    simp only [List.mem_filterMap]
    constructor
    · rintro ⟨e, listed, names⟩
      exact ⟨e, (alike e (some e q names)).mp listed, names⟩
    · rintro ⟨e, listed, names⟩
      exact ⟨e, (alike e (some e q names)).mpr listed, names⟩
  have addresses : ∀ e q, Edit.address? e = some q → e.addsPrefix = true := by
    intro e q names
    obtain ⟨a, rfl, -⟩ := Edit.address?_eq_some_iff.mp names
    rfl
  have routes : ∀ e q, Edit.route? e = some q → e.addsPrefix = true := by
    intro e q names
    obtain ⟨a, rfl, -⟩ := Edit.route?_eq_some_iff.mp names
    rfl
  unfold ofCalls
  rw [kept fun _ => Edit.mtu?_eq_none, kept fun _ => Edit.server?_eq_none, added addresses,
    added routes]

/-! ## §3. Plans. -/

/-- A description comes from another one by single calls. -/
def ByCalls (s s' : InterfaceSpec) : Prop :=
  ∃ calls : List Edit, (∀ e ∈ calls, e.isCall = true) ∧ s' = edited calls s

theorem ByCalls.refl (s : InterfaceSpec) : ByCalls s s :=
  ⟨[], fun _ listed => absurd listed List.not_mem_nil, rfl⟩

theorem ByCalls.trans {s s' s'' : InterfaceSpec} (first : ByCalls s s') (second : ByCalls s' s'') :
    ByCalls s s'' := by
  obtain ⟨before, single, rfl⟩ := first
  obtain ⟨after, single', rfl⟩ := second
  refine ⟨before ++ after, fun e listed => ?_, (edited_append before after s).symm⟩
  exact (List.mem_append.mp listed).elim (single e) (single' e)

theorem byCalls_call {e : Edit} (call : e.isCall = true) (s : InterfaceSpec) :
    ByCalls s (e.apply s).2 := by
  refine ⟨[e], fun e' listed => ?_, rfl⟩
  rw [List.mem_singleton.mp listed]
  exact call

/-- What an operation leaves, if a refused one changes nothing. -/
theorem orSelf_snd (s : InterfaceSpec) (outcome : Except ProvisionError InterfaceSpec) :
    (s.orSelf outcome).2 = outcome.toOption.getD s := by
  cases outcome with
  | ok s' => rfl
  | error e => rfl

/-- The outcome of a call, where `outcome` is what the call does. -/
theorem ByCalls.of_ok {e : Edit} {s s' : InterfaceSpec}
    {outcome : Except ProvisionError InterfaceSpec} (call : e.isCall = true)
    (does : e.apply s = s.orSelf outcome) (accepted : outcome = .ok s') : ByCalls s s' := by
  have left := byCalls_call call s
  rw [does, accepted] at left
  exact left

open InterfacePlan

theorem tryRoute_byCalls (cidr : String) (s : InterfaceSpec) : ByCalls s (tryRoute cidr s) := by
  unfold tryRoute
  cases IpPrefix.ofCidr cidr with
  | error cause => exact .refl s
  | ok p =>
      have left := byCalls_call (e := .route p.address.text p.length) rfl s
      rw [Edit.apply, orSelf_snd] at left
      exact left

theorem tryDns_byCalls (address : String) (s : InterfaceSpec) :
    ByCalls s (tryDns address s) := by
  have left := byCalls_call (e := .dns address) rfl s
  rw [Edit.apply, orSelf_snd] at left
  exact left

theorem optionally_byCalls {step : String → InterfaceSpec → InterfaceSpec}
    (one : ∀ t s, ByCalls s (step t s)) (text : Option String) (s : InterfaceSpec) :
    ByCalls s (optionally step text s) := by
  unfold optionally
  cases given text with
  | none => exact .refl s
  | some t => exact one t s

theorem foldl_tryRoute_byCalls (routes : List String) (s : InterfaceSpec) :
    ByCalls s (routes.foldl (fun s route => tryRoute route s) s) := by
  induction routes generalizing s with
  | nil => exact .refl s
  | cons route routes ih => exact (tryRoute_byCalls route s).trans (ih (tryRoute route s))

theorem applyRoutes_byCalls {plan : InterfacePlan} {s s' : InterfaceSpec}
    (applied : plan.applyRoutes s = .ok s') : ByCalls s s' := by
  have steps : ((optionally tryRoute plan.utilitySubnet s).addRoute "0.0.0.0" 0 >>= fun s =>
      .ok (optionally tryDns plan.dns (plan.routes.foldl (fun s route => tryRoute route s) s)))
        = .ok s' := applied
  obtain ⟨s₁, everything, rest⟩ := bind_eq_ok_iff.mp steps
  rw [← Except.ok.inj rest]
  exact (optionally_byCalls tryRoute_byCalls plan.utilitySubnet s).trans
    ((ByCalls.of_ok (e := .route "0.0.0.0" 0) rfl rfl everything).trans
      ((foldl_tryRoute_byCalls plan.routes s₁).trans (optionally_byCalls tryDns_byCalls plan.dns _)))

theorem applyAddress_byCalls {plan : InterfacePlan} {s s' : InterfaceSpec}
    (applied : plan.applyAddress s = .ok s') : ByCalls s s' := by
  unfold applyAddress at applied
  split at applied
  next p _ => exact .of_ok (e := .address p.address.text p.length) rfl rfl applied
  next => cases applied

/-- **A plan does nothing that single calls could not do**, wherever it stops. -/
theorem plan_byCalls (plan : InterfacePlan) (s : InterfaceSpec) : ByCalls s (plan.apply s).2 := by
  unfold InterfacePlan.apply
  split
  next => exact .refl s
  next s₁ mtu =>
    have first : ByCalls s s₁ := .of_ok (e := .mtu plan.mtu) rfl rfl mtu
    split
    next => exact first
    next s₂ address =>
      have second := first.trans (applyAddress_byCalls address)
      split
      next => exact second
      next s₃ routes => exact second.trans (applyRoutes_byCalls routes)

theorem edit_byCalls (e : Edit) (s : InterfaceSpec) : ByCalls s (e.apply s).2 := by
  cases e with
  | plan p => exact plan_byCalls p s
  | mtu n => exact byCalls_call rfl s
  | address a length => exact byCalls_call rfl s
  | route a length => exact byCalls_call rfl s
  | dns a => exact byCalls_call rfl s

/-! ## §4. What a platform is asked for. -/

/-- An interface that a platform can be asked for. -/
structure Establishable (s : InterfaceSpec) : Prop where
  mtu : ∃ n, s.mtu = some n ∧ 1280 ≤ n.toNat ∧ n.toNat ≤ 1500
  address : s.addresses ≠ []
  /-- No prefix is longer than the addresses of its family. -/
  lengths : ∀ p, p ∈ s.addresses ∨ p ∈ s.routes → p.length ≤ p.address.width

theorem checkUsable_eq_ok_iff {s : InterfaceSpec} :
    s.checkUsable = .ok () ↔ s.mtu.isSome = true ∧ s.addresses ≠ [] := by
  unfold checkUsable
  cases s.mtu with
  | none => simp
  | some n => cases s.addresses <;> simp

theorem ByCalls.establishable {s : InterfaceSpec} (origin : ByCalls .empty s)
    (usable : s.checkUsable = .ok ()) : s.Establishable where
  mtu := by
    obtain ⟨n, told⟩ := Option.isSome_iff_exists.mp (checkUsable_eq_ok_iff.mp usable).1
    refine ⟨n, told, ?_⟩
    obtain ⟨calls, single, rfl⟩ := origin
    rw [edited_empty single] at told
    -- the MTU that is described is one that was accepted
    obtain ⟨e, -, sets⟩ := List.mem_filterMap.mp (List.mem_of_getLast? told)
    exact (Edit.mtu?_eq_some_iff.mp sets).2
  address := (checkUsable_eq_ok_iff.mp usable).2
  lengths := fun p _ => p.length_le

end InterfaceSpec

/-- What is described by a job comes from calls, and once the platform is asked
for it, it was checked. -/
def Job.Described : Job → Prop
  | .described b => InterfaceSpec.ByCalls .empty b.spec
  | .asked b => InterfaceSpec.ByCalls .empty b.spec ∧ b.spec.checkUsable = .ok ()
  | _ => True

namespace Workshop

/-- So it is for all jobs. -/
def Described (w : Workshop) : Prop := ∀ (k : Nat) (j : Job), w.jobs[k]? = some j → j.Described

theorem Described.setJob {w : Workshop} {i : Nat} {j j' : Job} (all : w.Described)
    (job : w.jobs[i]? = some j) (new : j'.Described) : (w.setJob i j').Described := by
  intro k j'' at_k
  rw [getElem?_setJob job] at at_k
  split at at_k
  next =>
    injection at_k with at_k
    exact at_k ▸ new
  next => exact all k j'' at_k

theorem Described.change {w w' : Workshop} (all : w.Described) (step : Change w w') :
    w'.Described := by
  cases step with
  | served => exact all
  | attempt => exact all
  | opened s =>
      intro k j job
      have job : (w.jobs ++ [Job.opened s])[k]? = some j := job
      rw [getElem?_concat] at job
      split at job
      next =>
        cases job
        exact trivial
      next => exact all k j job
  | turned i j j' host job turn =>
      refine Described.setJob (w := { w with host := host }) all job ?_
      have before := all i j job
      cases turn with
      | made s => exact .refl .empty
      | edited b e => exact before.trans (InterfaceSpec.edit_byCalls e b.spec)
      | declined => exact trivial
      | granted => exact trivial
      | refused => exact trivial
      | detached => exact trivial
      | disposed => exact trivial
  | claimed i b job usable =>
      exact Described.setJob (w := { w with provisioner := _ }) all job ⟨all i _ job, usable⟩
  | gaveBack i b cause job =>
      exact Described.setJob (w := { w with provisioner := _ }) all job trivial

/-- **Every description in a run comes from calls**, and is checked before the
platform is asked. -/
theorem run_described (steps : List Step) : (initial.run steps).Described := by
  refine run_induction (fun w s all => all.change (step_change s w)) ?_ steps
  intro k j job
  cases job

end Workshop

/-! ## §5. The main result. -/

namespace InterfaceSpec

/-- The description tells what was accepted of some calls, and nothing else. -/
structure Tells (calls : List Edit) (s : InterfaceSpec) : Prop where
  /-- The MTU is the last one that was accepted. -/
  mtu : s.mtu = (calls.filterMap Edit.mtu?).getLast?
  /-- The addresses are those that were accepted. -/
  addresses : ∀ p, p ∈ s.addresses
    ↔ ∃ a, Edit.address a p.length ∈ calls ∧ IpAddress.parse a = .ok p.address
  /-- They stand in order, each once. -/
  addresses_ordered : PrefixSet.Ordered s.addresses
  /-- The routes are those that were accepted. -/
  routes : ∀ p, p ∈ s.routes
    ↔ ∃ a, Edit.route a p.length ∈ calls ∧ IpAddress.parse a = .ok p.address
  /-- They stand in order, each once. -/
  routes_ordered : PrefixSet.Ordered s.routes
  /-- The DNS servers are those that were accepted, each where it came first. -/
  servers : s.dnsServers = (calls.filterMap Edit.server?).eraseDups

/-- The set of what calls add, where `named` tells what one of them adds. -/
theorem mem_added {f : Edit → Option IpPrefix} {call : String → Nat → Edit}
    (named : ∀ e p, f e = some p ↔ ∃ a, e = call a p.length ∧ IpAddress.parse a = .ok p.address)
    (calls : List Edit) (p : IpPrefix) : p ∈ PrefixSet.ofList (calls.filterMap f)
      ↔ ∃ a, call a p.length ∈ calls ∧ IpAddress.parse a = .ok p.address := by
  refine PrefixSet.mem_ofList.trans (List.mem_filterMap.trans ?_)
  simp only [named]
  constructor
  · rintro ⟨e, listed, a, rfl, valid⟩
    exact ⟨a, listed, valid⟩
  · rintro ⟨a, listed, valid⟩
    exact ⟨_, listed, a, rfl, valid⟩

theorem ofCalls_tells (calls : List Edit) : Tells calls (ofCalls calls) where
  mtu := rfl
  addresses := mem_added (fun _ _ => Edit.address?_eq_some_iff) calls
  addresses_ordered := PrefixSet.ordered_ofList _
  routes := mem_added (fun _ _ => Edit.route?_eq_some_iff) calls
  routes_ordered := PrefixSet.ordered_ofList _
  servers := rfl

/-- What calls on a builder do. -/
structure FollowsCalls (calls : List Edit) (b : Builder) : Prop where
  /-- Whatever is described, a call with a valid argument is accepted. -/
  accepted : ∀ e ∈ calls, e.IsValid → ∀ s, (e.apply s).1 = .ok ()
  /-- One without is refused, and leaves the description as it was. -/
  refused : ∀ e ∈ calls, ¬ e.IsValid → ∀ s,
    (∃ error, (e.apply s).1 = .error error) ∧ (e.apply s).2 = s
  /-- What is described in the end is what was accepted. -/
  told : Tells calls (edited calls b.spec)
  /-- Neither the order nor the repetition of addresses and routes matters. -/
  settled : ∀ others : List Edit, (∀ e ∈ others, e.isCall = true) →
    ((others.filter fun e => !e.addsPrefix) = calls.filter fun e => !e.addsPrefix) →
    (∀ e, e.addsPrefix = true → (e ∈ others ↔ e ∈ calls)) →
    edited others b.spec = edited calls b.spec
  /-- What is described can be established once the claim has let it through. -/
  claimed : ∀ provisioner claimed : Provisioner,
    { b with spec := edited calls b.spec }.claim provisioner = .ok claimed →
    (edited calls b.spec).Establishable

/-- **Calls on a builder add up to what was accepted of them**, and in every run
a platform is asked for interfaces that it can establish only. -/
theorem descriptions_follow_accepted_calls {provisioner : Provisioner} {b : Builder}
    (fresh : provisioner.newBuilder = .ok b) {calls : List Edit}
    (single : ∀ e ∈ calls, e.isCall = true) :
    FollowsCalls calls b
      ∧ ∀ (steps : List Workshop.Step) (i : Nat) (asked : Builder),
          (Workshop.initial.run steps).jobs[i]? = some (.asked asked) →
            ByCalls .empty asked.spec ∧ asked.spec.Establishable := by
  have empty : b.spec = .empty := by
    unfold Provisioner.newBuilder at fresh
    split at fresh
    next => cases fresh
    next => rw [← Except.ok.inj fresh]
  refine ⟨⟨?_, ?_, ?_, ?_, ?_⟩, ?_⟩
  · intro e listed valid s
    rcases call_cases (single e listed) s with ⟨-, accepted⟩ | ⟨invalid, -⟩
    · exact accepted
    · exact absurd valid invalid
  · intro e listed invalid s
    rcases call_cases (single e listed) s with ⟨valid, -⟩ | ⟨-, refused⟩
    · exact absurd valid invalid
    · exact refused
  · rw [empty, edited_empty single]
    exact ofCalls_tells calls
  · intro others single' rest alike
    rw [empty, edited_empty single, edited_empty single', ofCalls_congr rest alike]
  · intro p p' claims
    rw [empty] at claims ⊢
    exact ByCalls.establishable ⟨calls, single, rfl⟩ (Workshop.claim_eq_ok_iff.mp claims).1
  · intro steps i asked job
    obtain ⟨origin, usable⟩ := Workshop.run_described steps i _ job
    exact ⟨origin, origin.establishable usable⟩

/-- Calls that are refused lie between those that count. -/
theorem calls_with_refused_ones_add_up :
    let platform : Platform := ⟨"", fun _ => .ok (), fun _ => true⟩
    let provisioner := (Provisioner.initial.attach platform).2
    let builder : Builder := ⟨⟨0, platform⟩, 0, .empty⟩
    let calls : List Edit := [.mtu 1420, .mtu 1501, .route "10.0.0.0" 8, .dns "9.9.9.9",
      .address "100.89.128.4" 33, .address "100.89.128.4" 20, .dns "1.1.1.1", .mtu 1380,
      .route " 10.0.0.0" 8, .dns "9.9.9.9", .mtu 1279]
    provisioner.newBuilder = .ok builder ∧ (∀ e ∈ calls, e.isCall = true)
      ∧ FollowsCalls calls builder
      ∧ (edited calls builder.spec).mtu = some 1380
      ∧ (edited calls builder.spec).routes.map IpPrefix.text = ["10.0.0.0/8"]
      ∧ (edited calls builder.spec).dnsServers.map IpAddress.text = ["9.9.9.9", "1.1.1.1"] := by
  intro platform provisioner builder calls
  have described : (edited calls builder.spec).mtu = some 1380
      ∧ (edited calls builder.spec).routes.map IpPrefix.text = ["10.0.0.0/8"]
      ∧ (edited calls builder.spec).dnsServers.map IpAddress.text = ["9.9.9.9", "1.1.1.1"] := by
    decide +kernel +revert
  have single : ∀ e ∈ calls, e.isCall = true := by decide
  have fresh : provisioner.newBuilder = .ok builder := rfl
  exact ⟨fresh, single, (descriptions_follow_accepted_calls fresh single).1, described⟩

end InterfaceSpec

end TunnelControl
