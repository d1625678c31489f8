import Booty.Disk.Wipe
import Booty.Lib.GoInt
import Booty.Lib.SortBy

namespace Booty.Disk

open Booty.Lib List Option

/-!
# The pair of disks to mirror

`DetectMirrorPair` sorts the candidate disks, largest first and then by path, and takes the first
disk that has an eligible partner further down, with the first such partner.

* `firstPartner_eq_find?` — leaving the inner loop at the first other size loses no partner.
* `firstPair_best` — on a sorted list the two loops find the best eligible pair.
* `detectMirrorPair_best` — the pair on a host, whatever the order of its disks.
-/

/-- `mirrorCandidate`. -/
structure MirrorCandidate where
  path : String
  device : String
  identities : List String
  bytes : Int
  sectorBytes : String

/-- The entries of a directory, which have distinct names. -/
abbrev Listing : Type := { names : List String // names.Nodup }

/-- What `mirrorCandidates` reads: the block directory of sysfs, the attributes of each disk and the
    BOOTY_ALLOW_REMOVABLE variable. -/
structure BlockDir where
  blockDir : String
  entries : Except String Listing
  allowRemovable : Bool
  isRemovableMedia : String → Bool
  readDiskSizeBytes : String → Option Int
  physicalDevice : String → String
  diskIdentities : String → List String
  logicalBlockSize : String → String

variable (sys : BlockDir) (minSizeGB : Int)

/-- The candidate that an entry of the block directory becomes. -/
def BlockDir.mirrorCandidate (name : String) : Option MirrorCandidate :=
  if isVirtualDisk name || (!sys.allowRemovable && sys.isRemovableMedia name) then none
  else
    match sys.readDiskSizeBytes name with
    | none => none
    | some size =>
      if size ≤ 0 ∨ (minSizeGB > 0 ∧ size < wrap64 (minSizeGB * 1024 * 1024 * 1024)) then none
      else
        some { path := "/dev/" ++ name, device := sys.physicalDevice name,
               identities := sys.diskIdentities name, bytes := size,
               sectorBytes := sys.logicalBlockSize name }

/-- `mirrorCandidates`. -/
def BlockDir.mirrorCandidates : Except String (List MirrorCandidate) :=
  match sys.entries with
  | .error e => .error s!"reading {sys.blockDir}: {e}"
  | .ok names => .ok (names.val.filterMap (sys.mirrorCandidate minSizeGB))

/-- `identitiesOverlap`. -/
def identitiesOverlap (a b : List String) : Bool := b.any (a.contains ·)

/-- The key of the sort: largest first, then by path. -/
def MirrorCandidate.key (c : MirrorCandidate) : Lex (Int × String) := toLex (-c.bytes, c.path)

/-- The inner loop of `DetectMirrorPair`. -/
def firstPartner (a : MirrorCandidate) : List MirrorCandidate → Option MirrorCandidate
  | [] => none
  | b :: rest =>
    if b.bytes ≠ a.bytes then none
    else if b.device = a.device ∨ b.sectorBytes ≠ a.sectorBytes ∨
        identitiesOverlap a.identities b.identities then firstPartner a rest
    else some b

/-- The outer loop. -/
def firstPair : List MirrorCandidate → Option (MirrorCandidate × MirrorCandidate)
  | [] => none
  | a :: rest =>
    match firstPartner a rest with
    | some b => some (a, b)
    | none => firstPair rest

/-- `DetectMirrorPair`. -/
def BlockDir.detectMirrorPair : Except String (Option (String × String)) :=
  match sys.mirrorCandidates minSizeGB with
  | .error e => .error e
  | .ok candidates =>
    .ok ((firstPair (sortBy MirrorCandidate.key candidates)).map fun p => (p.1.path, p.2.path))

/-! ### Eligible pairs -/

/-- Two disks that can be mirrored: equal size and sector size, on different physical devices and
    without a shared identity. -/
def Eligible (a b : MirrorCandidate) : Prop :=
  a.bytes = b.bytes ∧ a.sectorBytes = b.sectorBytes ∧ a.device ≠ b.device ∧
    ∀ id ∈ a.identities, id ∉ b.identities

instance (a b : MirrorCandidate) : Decidable (Eligible a b) := by unfold Eligible; infer_instance

variable {a b : MirrorCandidate} {l : List MirrorCandidate}

theorem Eligible.symm (h : Eligible a b) : Eligible b a := by
  obtain ⟨hbytes, hsector, hdevice, hids⟩ := h
  exact ⟨hbytes.symm, hsector.symm, hdevice.symm, fun id hb ha => hids id ha hb⟩

theorem not_eligible_self : ¬Eligible a a := fun h => h.2.2.1 rfl

/-- The disks are in the order of the sort. -/
abbrev Ordered (l : List MirrorCandidate) : Prop := l.Pairwise fun a b => a.key < b.key

theorem bytes_le_of_key_lt (h : a.key < b.key) : b.bytes ≤ a.bytes := by
  rcases (Prod.Lex.toLex_lt_toLex).mp h with h | h <;> simp only at h <;> omega

/-- **The inner loop finds the first eligible partner**: behind a smaller disk all are smaller. -/
theorem firstPartner_eq_find? (h : Ordered (a :: l)) :
    firstPartner a l = l.find? fun b => Eligible a b := by
  induction l with
  | nil => rfl
  | cons b rest ih =>
    have ih := ih (h.sublist (by simp))
    obtain ⟨ha, hrest⟩ := pairwise_cons.mp h
    by_cases hbytes : b.bytes = a.bytes
    · by_cases he : Eligible a b
      · have hover : identitiesOverlap a.identities b.identities = false := by
          simpa [identitiesOverlap] using fun id hb ha => he.2.2.2 id ha hb
        simp [firstPartner, hbytes, he, he.2.1.symm, he.2.2.1.symm, hover]
      · rw [find?_cons_of_neg (by simpa using he), ← ih, firstPartner,
          if_neg (not_not.mpr hbytes), if_pos]
        by_contra hno
        simp only [identitiesOverlap, List.any_eq_true, List.contains_iff_mem, not_or] at hno
        exact he ⟨hbytes.symm, (not_not.mp hno.2.1).symm, Ne.symm hno.1,
          fun id ha hb => hno.2.2 ⟨id, hb, ha⟩⟩
    · rw [firstPartner, if_pos hbytes, eq_comm, find?_eq_none]
      intro c hc
      have hb := bytes_le_of_key_lt (ha b (by simp))
      have hcb : c.bytes ≤ b.bytes := by
        rcases mem_cons.mp hc with rfl | hc
        · exact le_refl _
        · exact bytes_le_of_key_lt ((pairwise_cons.mp hrest).1 c hc)
      have hne : ¬Eligible a c := fun he => by have := he.1; omega
      simpa using hne

/-- The best eligible pair of a list: `none` only if there is no eligible pair, and no eligible
    pair comes before it. -/
def Best (l : List MirrorCandidate) : Option (MirrorCandidate × MirrorCandidate) → Prop
  | none => ∀ x ∈ l, ∀ y ∈ l, ¬Eligible x y
  | some (a, b) => a ∈ l ∧ b ∈ l ∧ Eligible a b ∧
    ∀ x ∈ l, ∀ y ∈ l, Eligible x y → a.key < x.key ∨ a.key = x.key ∧ b.key ≤ y.key

/-- **The two loops find the best eligible pair** of a sorted list. -/
theorem firstPair_best (h : Ordered l) : Best l (firstPair l) := by
  induction l with
  | nil => exact nofun
  | cons a rest ih =>
    obtain ⟨ha, hrest⟩ := pairwise_cons.mp h
    rw [firstPair, firstPartner_eq_find? h]
    cases hfind : rest.find? (fun b => Eligible a b) with
    | some b =>
      obtain ⟨hab, front, back, rfl, hfront⟩ := find?_eq_some_iff_append.mp hfind
      have hab : Eligible a b := by simpa using hab
      refine ⟨by simp, by simp, hab, fun x hx y hy hxy => ?_⟩
      rcases mem_cons.mp hx with rfl | hx
      · -- `x` is the first disk: its partner `y` is not before the first hit `b`.
        refine .inr ⟨rfl, ?_⟩
        rcases mem_cons.mp hy with rfl | hy
        · exact absurd hxy not_eligible_self
        · rcases mem_append.mp hy with hy | hy
          · exact absurd hxy (by simpa using hfront y hy)
          · rcases mem_cons.mp hy with rfl | hy
            · exact le_refl _
            · have hback := (pairwise_append.mp hrest).2.1
              exact ((pairwise_cons.mp hback).1 y hy).le
      · exact .inl (ha x hx)
    | none =>
      -- The first disk has no partner, so no pair has it on either side.
      have hnone : ∀ y ∈ a :: rest, ¬Eligible a y := by
        intro y hy
        rcases mem_cons.mp hy with rfl | hy
        · exact not_eligible_self
        · simpa using find?_eq_none.mp hfind y hy
      have hmem : ∀ x ∈ a :: rest, ∀ y ∈ a :: rest, Eligible x y → x ∈ rest ∧ y ∈ rest := by
        intro x hx y hy hxy
        refine ⟨(mem_cons.mp hx).resolve_left ?_, (mem_cons.mp hy).resolve_left ?_⟩
        · rintro rfl
          exact hnone y hy hxy
        · rintro rfl
          exact hnone x hx hxy.symm
      have hbest := ih hrest
      cases hpair : firstPair rest with
      | none =>
        rw [hpair] at hbest
        intro x hx y hy hxy
        obtain ⟨hx, hy⟩ := hmem x hx y hy hxy
        exact hbest x hx y hy hxy
      | some p =>
        rw [hpair] at hbest
        refine ⟨.tail a hbest.1, .tail a hbest.2.1, hbest.2.2.1, fun x hx y hy hxy => ?_⟩
        obtain ⟨hx, hy⟩ := hmem x hx y hy hxy
        exact hbest.2.2.2 x hx y hy hxy

/-! ### The pair on a host -/

variable {sys minSizeGB}

theorem mirrorCandidate_path {name : String} (h : sys.mirrorCandidate minSizeGB name = some a) :
    a.path = "/dev/" ++ name := by
  simp only [BlockDir.mirrorCandidate, ite_none_left_eq_some] at h
  obtain ⟨-, h⟩ := h
  split at h
  · cases h
  · simp only [ite_none_left_eq_some, some.injEq] at h
    rw [← h.2]

variable (sys minSizeGB)

/-- **The sorted candidates are in order**, since the names of a directory are distinct. -/
theorem ordered_candidates (names : Listing) :
    Ordered (sortBy MirrorCandidate.key (names.val.filterMap (sys.mirrorCandidate minSizeGB))) := by
  have hne : (names.val.filterMap (sys.mirrorCandidate minSizeGB)).Pairwise
      fun a b => a.key ≠ b.key := by
    refine List.Pairwise.filterMap _ (fun n n' hne c hc c' hc' hkey => hne ?_) names.property
    have hpath : c.path = c'.path := congrArg (fun k => (ofLex k).2) hkey
    rw [mirrorCandidate_path hc, mirrorCandidate_path hc'] at hpath
    simpa using hpath
  have hsorted := (sortBy_perm MirrorCandidate.key _).symm.pairwise hne fun hab => hab.symm
  exact ((sortBy_pairwise _ _).and hsorted).imp fun h => lt_of_le_of_ne h.1 h.2

/-- **The best pair.**  A pair is found iff two candidates are eligible.  It is eligible, no
    eligible pair is larger, and among those of its size it is the first by its paths.  Another
    order of the disks gives the same pair. -/
theorem detectMirrorPair_best {names : Listing} (h : sys.entries = .ok names) :
    ∃ cs r, sys.mirrorCandidates minSizeGB = .ok cs ∧ sys.detectMirrorPair minSizeGB = .ok r ∧
      (r.isSome ↔ ∃ a ∈ cs, ∃ b ∈ cs, Eligible a b) ∧
      (∀ p ∈ r, ∃ a ∈ cs, ∃ b ∈ cs, p = (a.path, b.path) ∧ Eligible a b ∧
        ∀ x ∈ cs, ∀ y ∈ cs, Eligible x y → x.bytes ≤ a.bytes ∧
          (x.bytes = a.bytes → toLex p ≤ toLex (x.path, y.path))) ∧
      ∀ names' : Listing, names'.val.Perm names.val →
        { sys with entries := .ok names' }.detectMirrorPair minSizeGB = .ok r := by
  have hbest := firstPair_best (ordered_candidates sys minSizeGB names)
  refine ⟨_, _, by rw [BlockDir.mirrorCandidates, h], by
    rw [BlockDir.detectMirrorPair, BlockDir.mirrorCandidates, h], ?_, ?_, ?_⟩
  · cases hpair : firstPair _ with
    | none =>
      rw [hpair] at hbest
      simpa [Best] using hbest
    | some p =>
      rw [hpair] at hbest
      obtain ⟨ha, hb, hab, -⟩ := hbest
      exact iff_of_true rfl ⟨p.1, mem_sortBy.mp ha, p.2, mem_sortBy.mp hb, hab⟩
  · intro p hp
    obtain ⟨⟨a, b⟩, hpair, rfl⟩ := map_eq_some_iff.mp hp
    rw [hpair] at hbest
    obtain ⟨ha, hb, hab, hmin⟩ := hbest
    refine ⟨a, mem_sortBy.mp ha, b, mem_sortBy.mp hb, rfl, hab, fun x hx y hy hxy => ?_⟩
    have hcase := hmin x (mem_sortBy.mpr hx) y (mem_sortBy.mpr hy) hxy
    simp only [MirrorCandidate.key, Prod.Lex.toLex_lt_toLex, Prod.Lex.toLex_le_toLex,
      EmbeddingLike.apply_eq_iff_eq] at hcase ⊢
    have hbytes := hab.1
    have hbytes' := hxy.1
    grind
  · intro names' hperm
    -- The sort has no ties, so its result does not depend on the listing.
    have hcs := hperm.filterMap (sys.mirrorCandidate minSizeGB)
    have hsorted := (sortBy_perm MirrorCandidate.key _).trans
      (hcs.trans (sortBy_perm MirrorCandidate.key _).symm)
    rw [← hsorted.eq_of_pairwise (fun a b _ _ hab hba => absurd hab (lt_asymm hba))
      (ordered_candidates sys minSizeGB names') (ordered_candidates sys minSizeGB names)]
    rfl

/-- A host with two equal disks and a smaller one. -/
def sampleBlocks : BlockDir where
  blockDir := "/sys/block"
  entries := .ok ⟨["sda", "sdb", "sdc"], by decide⟩
  allowRemovable := false
  isRemovableMedia := fun _ => false
  readDiskSizeBytes := fun name => some (if name = "sda" then 1000 else 2000)
  physicalDevice := id
  diskIdentities := fun name => [name]
  logicalBlockSize := fun _ => "512"

theorem detectMirrorPair_best_sample : ∃ p, sampleBlocks.detectMirrorPair 0 = .ok (some p) := by
  obtain ⟨cs, r, hcs, hr, hsome, -⟩ := detectMirrorPair_best sampleBlocks 0 rfl
  have hex : r.isSome := hsome.mpr (by
    cases hcs
    decide)
  obtain ⟨p, rfl⟩ := isSome_iff_exists.mp hex
  exact ⟨p, hr⟩

end Booty.Disk
