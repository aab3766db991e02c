/-
  TunnelControl.Proofs.Address.Ipv6
  ─────────────────────────────────
  **EIGHT GROUPS ARE READ BACK FROM THE SHORTEST FORM.**

  Groups are written without leading zeros, so none is empty and none holds a
  colon: two colons in a row stand only where zeros were left out.  What was
  left out is one run of zeros, and the number of groups around it tells its
  length.  A mapped IPv4 address is a dotted tail behind such a run.

    • `group?_toDigits`      — one group,
    • `gap?_groupsText`      — the first `::` is that of the run,
    • `longestRun_splits`    — the run that is left out holds zeros only,
    • `tail?_groups`, `tail?_mapped` — the groups behind it,
    • `Ipv6.ofChars?_toChars`, `Ipv6.mem_toChars` — an address.
-/
import TunnelControl.Proofs.Address.Ipv4

namespace TunnelControl.Ipv6

/-! ## §1. Groups. -/

theorem hexValue?_digitChar {d : Nat} (h : d < 16) : hexValue? (Nat.digitChar d) = some d := by
  have all : ∀ d : Fin 16, hexValue? (Nat.digitChar d) = some d.val := by decide
  exact all ⟨d, h⟩

/-- The hexadecimal digits of a number have values that make up the number. -/
theorem traverse?_toDigits (n : Nat) :
    ∃ ds, traverse? hexValue? (Nat.toDigits 16 n) = some ds
      ∧ ds.foldl (fun n d => 16 * n + d) 0 = n := by
  induction n using Nat.strongRecOn with
  | ind n ih =>
    by_cases small : n < 16
    · refine ⟨[n], ?_, by simp⟩
      rw [Nat.toDigits_of_lt_base small, traverse?, hexValue?_digitChar small]
      rfl
    · obtain ⟨ds, front, value⟩ := ih (n / 16) (by omega)
      refine ⟨ds ++ [n % 16], ?_, ?_⟩
      · rw [Nat.toDigits_of_base_le (by decide) (by omega), traverse?_append, front, traverse?,
          hexValue?_digitChar (Nat.mod_lt n (by decide))]
        rfl
      · rw [List.foldl_append, value]
        exact Nat.div_add_mod n 16

/-- **The digits of a group are read as that group.** -/
theorem group?_toDigits (g : UInt16) : group? (Nat.toDigits 16 g.toNat) = some g := by
  have small : g.toNat < 65536 := g.toNat_lt
  have short : (Nat.toDigits 16 g.toNat).length ≤ 4 :=
    (Nat.length_toDigits_le_iff (by decide) (by decide)).mpr (by omega)
  obtain ⟨ds, digits, value⟩ := traverse?_toDigits g.toNat
  unfold group?
  rw [digits, if_neg]
  · show some (UInt16.ofNat (ds.foldl _ 0)) = _
    rw [value, UInt16.ofNat_toNat]
  · rintro (none | long)
    · exact Nat.toDigits_ne_nil (List.isEmpty_iff.mp none)
    · omega

theorem isSome_of_mem_toDigits {n : Nat} {c : Char} (h : c ∈ Nat.toDigits 16 n) :
    (hexValue? c).isSome = true := by
  obtain ⟨ds, digits, -⟩ := traverse?_toDigits n
  exact isSome_of_traverse? digits h

theorem colon_not_mem_toDigits (n : Nat) : ':' ∉ Nat.toDigits 16 n := by
  intro listed
  exact absurd (isSome_of_mem_toDigits listed) (by decide)

/-- What is not a hexadecimal digit stands in no group. -/
theorem group?_eq_none {cs : List Char} {c : Char} (listed : c ∈ cs)
    (other : hexValue? c = none) : group? cs = none := by
  unfold group?
  split
  next => rfl
  next =>
  cases digits : traverse? hexValue? cs with
  | none => rfl
  | some ds =>
      have value := isSome_of_traverse? digits listed
      rw [other] at value
      cases value

/-- The texts of groups. -/
def hexTexts (gs : List UInt16) : List (List Char) := gs.map fun g => Nat.toDigits 16 g.toNat

theorem groupsText_eq (gs : List UInt16) : groupsText gs = Ipv4.joined ':' (hexTexts gs) := rfl

theorem hexTexts_free {gs : List UInt16} {p : List Char} (h : p ∈ hexTexts gs) : ':' ∉ p := by
  obtain ⟨g, -, rfl⟩ := List.mem_map.mp h
  exact colon_not_mem_toDigits _

theorem hexTexts_ne_nil {gs : List UInt16} {p : List Char} (h : p ∈ hexTexts gs) : p ≠ [] := by
  obtain ⟨g, -, rfl⟩ := List.mem_map.mp h
  exact Nat.toDigits_ne_nil

theorem traverse?_hexTexts (gs : List UInt16) : traverse? group? (hexTexts gs) = some gs :=
  traverse?_map fun g _ => group?_toDigits g

/-! ## §2. Where zeros are left out. -/

theorem gap?_cons_of_ne {c : Char} (other : c ≠ ':') (cs : List Char) :
    gap? (c :: cs) = (gap? cs).map fun r => (c :: r.1, r.2) := by
  cases cs with
  | nil => rfl
  | cons d cs =>
      rw [gap?, if_neg]
      rintro ⟨same, -⟩
      exact other same

/-- No gap begins in a piece without colons. -/
theorem gap?_append_of_not_mem {p : List Char} (free : ':' ∉ p) (cs : List Char) :
    gap? (p ++ cs) = (gap? cs).map fun r => (p ++ r.1, r.2) := by
  induction p with
  | nil => cases h : gap? cs <;> simp [h]
  | cons c p ih =>
      obtain ⟨other, rest⟩ := not_or.mp (mt List.mem_cons.mpr free)
      rw [List.cons_append, gap?_cons_of_ne (Ne.symm other), ih rest, Option.map_map]
      rfl

/-- A single colon is no gap. -/
theorem gap?_colon_cons {c : Char} (other : c ≠ ':') (cs : List Char) :
    gap? (':' :: c :: cs) = (gap? (c :: cs)).map fun r => (':' :: r.1, r.2) := by
  rw [gap?, if_neg]
  rintro ⟨-, same⟩
  exact other same

/-- Joined pieces begin as their first piece does. -/
theorem exists_joined_cons {p : List Char} (some : p ≠ []) (ps : List (List Char)) :
    ∃ c cs, c ∈ p ∧ Ipv4.joined ':' (p :: ps) = c :: cs := by
  obtain ⟨c, cs, rfl⟩ := List.exists_cons_of_ne_nil some
  cases ps with
  | nil => exact ⟨c, cs, List.mem_cons_self, rfl⟩
  | cons q qs => exact ⟨c, cs ++ ':' :: Ipv4.joined ':' (q :: qs), List.mem_cons_self, rfl⟩

/-- **No gap begins among groups**; the first one is that of what follows. -/
theorem gap?_joined {ps : List (List Char)} (free : ∀ p ∈ ps, ':' ∉ p) (some : ∀ p ∈ ps, p ≠ [])
    (cs : List Char) :
    gap? (Ipv4.joined ':' ps ++ cs) = (gap? cs).map fun r => (Ipv4.joined ':' ps ++ r.1, r.2) := by
  induction ps with
  | nil => cases h : gap? cs <;> simp [Ipv4.joined, h]
  | cons p ps ih =>
      have later := ih (fun q listed => free q (List.mem_cons_of_mem _ listed))
        fun q listed => some q (List.mem_cons_of_mem _ listed)
      have first := free p List.mem_cons_self
      cases ps with
      | nil => exact gap?_append_of_not_mem first cs
      | cons q qs =>
          -- the colon behind the piece is followed by the next piece, which is not empty
          have second : q ∈ p :: q :: qs := List.mem_cons_of_mem _ List.mem_cons_self
          obtain ⟨c, rest, within, hrest⟩ := exists_joined_cons (some q second) qs
          have other : c ≠ ':' := by
            rintro rfl
            exact free q second within
          rw [hrest, List.cons_append] at later
          show gap? (p ++ ':' :: Ipv4.joined ':' (q :: qs) ++ cs) = _
          rw [List.append_assoc, List.cons_append, gap?_append_of_not_mem first, hrest,
            List.cons_append, gap?_colon_cons other, later, Option.map_map, Option.map_map,
            Ipv4.joined, hrest]
          simp [Function.comp_def]

theorem gap?_groupsText (gs : List UInt16) (cs : List Char) :
    gap? (groupsText gs ++ cs) = (gap? cs).map fun r => (groupsText gs ++ r.1, r.2) :=
  gap?_joined (fun _ => hexTexts_free) (fun _ => hexTexts_ne_nil) cs

/-! ## §3. Groups in a row. -/

/-- A text of groups is cut into the texts of the groups. -/
theorem parts_groupsText {gs : List UInt16} (some : gs ≠ []) :
    Text.parts ':' (groupsText gs) = hexTexts gs :=
  Ipv4.parts_joined (mt List.map_eq_nil_iff.mp some) fun _ => hexTexts_free

theorem pieces_groupsText (gs : List UInt16) : pieces (groupsText gs) = hexTexts gs := by
  cases gs with
  | nil => rfl
  | cons g gs =>
      obtain ⟨c, cs, -, begins⟩ :=
        exists_joined_cons (p := Nat.toDigits 16 g.toNat) Nat.toDigits_ne_nil (hexTexts gs)
      have filled : (groupsText (g :: gs)).isEmpty = false := by
        rw [groupsText_eq, hexTexts, List.map_cons, ← hexTexts, begins]
        rfl
      unfold pieces
      rw [filled]
      exact parts_groupsText (List.cons_ne_nil g gs)

/-- **The texts of groups are read as those groups.** -/
theorem tail?_groups (gs : List UInt16) : tail? (hexTexts gs) = some gs := by
  induction gs with
  | nil => rfl
  | cons g gs ih =>
      cases gs with
      | nil =>
          show tail? [Nat.toDigits 16 g.toNat] = _
          rw [tail?, group?_toDigits]
      | cons h gs =>
          show (group? (Nat.toDigits 16 g.toNat) >>= fun _ => tail? (hexTexts (h :: gs)) >>= _) = _
          rw [group?_toDigits, ih]
          rfl

/-- A dotted tail is no group, and is read as two. -/
theorem tail?_dotted (v4 : Ipv4) : tail? [v4.toChars] = some v4.toGroups := by
  have dotted : group? v4.toChars = none := group?_eq_none v4.dot_mem_toChars (by decide)
  rw [tail?, dotted, Ipv4.ofChars?_toChars]
  rfl

theorem tail?_mapped (g : UInt16) (v4 : Ipv4) :
    tail? [Nat.toDigits 16 g.toNat, v4.toChars] = some (g :: v4.toGroups) := by
  rw [tail?, group?_toDigits, tail?_dotted]
  rfl

/-! ## §4. The run that is left out. -/

/-- **The run holds zeros only**, and the groups around it are the other ones. -/
theorem longestRun_splits (start : Nat) (gs : List UInt16) (h : 0 < (longestRun start gs).2) :
    ∃ front back, gs = front ++ List.replicate (longestRun start gs).2 0 ++ back
      ∧ (longestRun start gs).1 = start + front.length := by
  induction gs generalizing start with
  | nil => exact absurd h (Nat.lt_irrefl 0)
  | cons g gs ih =>
      unfold longestRun at h ⊢
      dsimp only at h ⊢
      split
      next longer =>
        rw [if_pos longer] at h
        obtain ⟨front, back, split, position⟩ := ih (start + 1) h
        refine ⟨g :: front, back, ?_, ?_⟩
        · rw [List.cons_append, List.cons_append, ← split]
        · rw [position, List.length_cons]
          omega
      next =>
        -- the run begins here, so nothing stands before it
        refine ⟨[], (g :: gs).dropWhile (· == 0), ?_, rfl⟩
        have zeros : (g :: gs).takeWhile (· == 0)
            = List.replicate (leadingZeros (g :: gs)) 0 := by
          refine List.eq_replicate_iff.mpr ⟨rfl, fun b taken => ?_⟩
          exact beq_iff_eq.mp (List.all_eq_true.mp List.all_takeWhile b taken)
        rw [List.nil_append, ← zeros, List.takeWhile_append_dropWhile]

/-! ## §5. Addresses. -/

theorem toGroup_bytes (g : UInt16) :
    Ipv4.toGroup (UInt8.ofNat (g.toNat / 256)) (UInt8.ofNat (g.toNat % 256)) = g := by
  have small : g.toNat < 65536 := g.toNat_lt
  refine UInt16.toNat_inj.mp ?_
  simp [Ipv4.toGroup]
  omega

/-- The groups of an address into which an IPv4 address is mapped. -/
theorem groups_of_mapped? {a : Ipv6} {v4 : Ipv4} (h : a.mapped? = some v4) :
    a.groups.toList = [0, 0, 0, 0, 0, 0xFFFF] ++ v4.toGroups := by
  unfold mapped? at h
  split at h
  next g h' groups =>
    cases h
    rw [groups]
    show _ = [0, 0, 0, 0, 0, 0xFFFF, Ipv4.toGroup _ _, Ipv4.toGroup _ _]
    simp only [Vector.getElem_mk, List.getElem_toArray, List.getElem_cons_zero,
      List.getElem_cons_succ, toGroup_bytes]
  next => cases h

/-- Groups around a gap are read with the zeros that were left out. -/
theorem ofChars?_gap {a : Ipv6} {cs front back : List Char} {gs hs : List UInt16} {zeros : Nat}
    (gap : gap? cs = some (front, back)) (hfront : traverse? group? (pieces front) = some gs)
    (hback : tail? (pieces back) = some hs) (left : 0 < zeros)
    (whole : a.groups.toList = gs ++ List.replicate zeros 0 ++ hs) : ofChars? cs = some a := by
  have length : gs.length + zeros + hs.length = 8 := by
    have length := congrArg List.length whole
    rw [Vector.length_toList, List.length_append, List.length_append, List.length_replicate] at length
    exact length.symm
  have number : 8 - gs.length - hs.length = zeros := by omega
  unfold ofChars?
  rw [gap]
  dsimp only
  rw [hfront, hback]
  show (if 7 < gs.length + hs.length then none else _) = _
  rw [if_neg (by omega), number, ← whole, vectorOf?_toList]
  rfl

/-- The text of a mapped address is read as that address. -/
theorem ofChars?_mapped {a : Ipv6} {v4 : Ipv4} (h : a.mapped? = some v4) :
    ofChars? ("::ffff:".toList ++ v4.toChars) = some a := by
  have back : pieces ("ffff:".toList ++ v4.toChars)
      = [Nat.toDigits 16 (0xFFFF : UInt16).toNat, v4.toChars] := by
    show Text.parts ':' ("ffff".toList ++ ':' :: v4.toChars) = _
    rw [Text.parts_append (by decide), Text.parts_of_not_mem v4.colon_not_mem_toChars]
    rfl
  have gap : gap? ("::ffff:".toList ++ v4.toChars) = some ([], "ffff:".toList ++ v4.toChars) := rfl
  have whole : a.groups.toList = [] ++ List.replicate 5 0 ++ 0xFFFF :: v4.toGroups :=
    groups_of_mapped? h
  refine ofChars?_gap gap rfl ?_ (by decide) whole
  rw [back]
  exact tail?_mapped 0xFFFF v4

/-- **The text of an address is read as that address.** -/
theorem ofChars?_toChars (a : Ipv6) : ofChars? a.toChars = some a := by
  -- a mapped address, all eight groups, or groups around a run of zeros
  unfold toChars
  split
  next v4 mapped => exact ofChars?_mapped mapped
  next =>
  dsimp only
  split
  next short =>
    have none : gap? (groupsText a.groups.toList) = none := by
      have found := gap?_groupsText a.groups.toList []
      rwa [List.append_nil] at found
    have some : a.groups.toList ≠ [] := by
      rw [← List.length_pos_iff, Vector.length_toList]
      decide
    unfold ofChars?
    rw [none]
    dsimp only
    rw [parts_groupsText some, tail?_groups]
    show (vectorOf? 8 a.groups.toList >>= _) = _
    rw [vectorOf?_toList]
    rfl
  next long =>
    have run_splits := longestRun_splits 0 a.groups.toList (by omega)
    generalize longestRun 0 a.groups.toList = run at long run_splits ⊢
    obtain ⟨front, back, split, position⟩ := run_splits
    rw [Nat.zero_add] at position
    have before : a.groups.toList.take run.1 = front := by
      rw [position, split, List.append_assoc, List.take_left]
    have behind : a.groups.toList.drop (run.1 + run.2) = back := by
      rw [position, split]
      exact List.drop_left' (by rw [List.length_append, List.length_replicate])
    rw [before, behind, List.append_assoc]
    refine ofChars?_gap (gap?_groupsText front (':' :: ':' :: groupsText back)) ?_ ?_ ?_ split
    · show traverse? group? (pieces (groupsText front ++ [])) = _
      rw [List.append_nil, pieces_groupsText, traverse?_hexTexts]
    · rw [pieces_groupsText, tail?_groups]
    · omega

/-! ## §6. The characters of an address. -/

theorem mem_groupsText {gs : List UInt16} {c : Char} (h : c ∈ groupsText gs) :
    c = ':' ∨ (hexValue? c).isSome = true := by
  refine (Ipv4.mem_joined h).imp_right ?_
  rintro ⟨p, listed, within⟩
  obtain ⟨g, -, rfl⟩ := List.mem_map.mp listed
  exact isSome_of_mem_toDigits within

theorem hexValue?_of_isDigit {c : Char} (h : Text.isDigit c = true) :
    (hexValue? c).isSome = true := by
  unfold Text.isDigit at h
  rw [Bool.and_eq_true, decide_eq_true_iff, decide_eq_true_iff] at h
  unfold hexValue?
  rw [if_pos h]
  rfl

/-- Nothing but hexadecimal digits, colons and dots stands in an address. -/
theorem mem_toChars {a : Ipv6} {c : Char} (h : c ∈ a.toChars) :
    c = ':' ∨ c = '.' ∨ (hexValue? c).isSome = true := by
  have groups : ∀ {gs : List UInt16}, c ∈ groupsText gs →
      c = ':' ∨ c = '.' ∨ (hexValue? c).isSome = true :=
    fun listed => (mem_groupsText listed).imp_right .inr
  unfold toChars at h
  split at h
  next v4 mapped =>
    obtain mark | tail := List.mem_append.mp h
    · have marks : ("::ffff:".toList.all fun c => c = ':' ∨ (hexValue? c).isSome = true) = true := by
        decide
      exact (of_decide_eq_true (List.all_eq_true.mp marks c mark)).imp_right .inr
    · exact .inr ((Ipv4.mem_toChars tail).imp_right hexValue?_of_isDigit)
  next =>
  dsimp only at h
  split at h
  next => exact groups h
  next =>
    obtain h | back := List.mem_append.mp h
    · obtain front | gap := List.mem_append.mp h
      · exact groups front
      · exact .inl (by simpa using gap)
    · exact groups back

/-- A colon stands in each address. -/
theorem colon_mem_toChars (a : Ipv6) : ':' ∈ a.toChars := by
  unfold toChars
  split
  next v4 mapped => exact List.mem_append_left _ (by decide)
  next =>
  dsimp only
  split
  next =>
    refine Ipv4.sep_mem_joined ?_
    rw [List.length_map, Vector.length_toList]
    decide
  next => exact List.mem_append_left _ (List.mem_append_right _ List.mem_cons_self)

end TunnelControl.Ipv6
