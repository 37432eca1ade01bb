import Evergreen.Search.Weighted

namespace Evergreen.Proxy

/-! # Weighted round-robin

The backends of `ProxyState`, and the two functions that select one of them:
`select_backend` and the TCP proxy's `select_backend_static`.  Weights are
`u32`s; `checks` says whether the build checks their sum for overflow.
-/

structure BackendEntry where
  addr : String
  weight : Nat
  healthy : Bool
deriving DecidableEq, Repr

/-- `rr_index` is a `usize`, and zero or less than the total weight of some
earlier selection. -/
structure Balancer where
  backends : List BackendEntry
  rrIndex : Nat
  bounded : rrIndex + 1 < 2 ^ 32
deriving DecidableEq

/-- What a selection comes to: nothing, an entry that the loop returns, or the
entry after the loop. -/
inductive Choice where
  | nothing
  | inLoop (index : Nat)
  | afterLoop (index : Nat)
deriving DecidableEq, Repr

/-- What the loop finds, and the first healthy entry. -/
def Choice.of (first : Nat) : Option Nat → Choice
  | some index => .inLoop index
  | none => .afterLoop first

/-- `iter().sum()` of `u32`s, `none` where it panics. -/
def sumU32 (checks : Bool) (weights : List Nat) : Option (Fin (2 ^ 32)) :=
  if fits : weights.sum < 2 ^ 32 then some ⟨weights.sum, fits⟩
  else if checks then none
  else some ⟨weights.sum % 2 ^ 32, Nat.mod_lt _ (by decide)⟩

namespace Balancer

def new : Balancer := ⟨[], 0, by decide⟩

variable (balancer : Balancer)

def registerBackend (addr : String) (weight : Nat) (healthy : Bool) : Balancer :=
  { balancer with backends := balancer.backends ++ [⟨addr, weight, healthy⟩] }

/-- The first entry with the address. -/
def setHealth (addr : String) (healthy : Bool) : List BackendEntry → List BackendEntry
  | [] => []
  | entry :: rest =>
      if entry.addr = addr then { entry with healthy := healthy } :: rest
      else entry :: setHealth addr healthy rest

def setBackendHealth (addr : String) (healthy : Bool) : Balancer :=
  { balancer with backends := setHealth addr healthy balancer.backends }

/-- The indices and weights of the healthy entries. -/
def healthy : List (Nat × Nat) :=
  (balancer.backends.zipIdx.filter (·.1.healthy)).map fun (entry, index) => (index, entry.weight)

def advance (total : Fin (2 ^ 32)) (positive : total ≠ 0) : Balancer where
  backends := balancer.backends
  rrIndex := (balancer.rrIndex + 1) % total
  bounded := by
    have turned : (balancer.rrIndex + 1) % (total : Nat) < total :=
      Nat.mod_lt _ (Nat.pos_of_ne_zero fun zero => positive (Fin.ext zero))
    have limit := total.isLt
    omega

/-- The lines that both functions share, `none` where they panic. -/
def choose (checks : Bool) : Option (Choice × Balancer) :=
  match balancer.healthy with
  | [] => some (.nothing, balancer)
  | (first, weight) :: rest =>
      (sumU32 checks (((first, weight) :: rest).map Prod.snd)).map fun (total : Fin (2 ^ 32)) =>
        if zero : total = 0 then (.nothing, balancer)
        else
          (.of first (Search.pick ((first, weight) :: rest) (balancer.rrIndex % 2 ^ 32 % total)),
            balancer.advance total zero)

def selectBackend (checks : Bool) : Option (Choice × Balancer) :=
  balancer.choose checks

def selectBackendStatic (checks : Bool) (backends : List String) : Option (Choice × Balancer) :=
  if backends.isEmpty then some (.nothing, balancer) else balancer.choose checks

/-- What `start_tcp_proxy` captures. -/
def addresses : List String := balancer.backends.map (·.addr)

/-- The backend that the caller is given. -/
def address : Choice → Option String
  | .nothing => none
  | .inLoop index => (balancer.backends[index]?).map (·.addr)
  | .afterLoop index => (balancer.backends[index]?).map (·.addr)

/-! ## The healthy entries -/

variable {balancer} {index weight : Nat}

theorem mem_healthy : (index, weight) ∈ balancer.healthy ↔
    ∃ entry, balancer.backends[index]? = some entry ∧ entry.healthy = true ∧
      entry.weight = weight := by
  simp only [healthy, List.mem_map, List.mem_filter, Prod.exists, List.mem_zipIdx_iff_getElem?,
    Prod.mk.injEq]
  constructor
  · rintro ⟨entry, other, ⟨found, fit⟩, rfl, rfl⟩
    exact ⟨entry, found, fit, rfl⟩
  · rintro ⟨entry, found, fit, rfl⟩
    exact ⟨entry, index, ⟨found, fit⟩, rfl, rfl⟩

theorem healthy_nodup (balancer : Balancer) : (balancer.healthy.map Prod.fst).Nodup := by
  have indices : balancer.healthy.map Prod.fst =
      (balancer.backends.zipIdx.filter (·.1.healthy)).map Prod.snd := by
    simp [healthy, Function.comp_def]
  rw [indices]
  have numbered : (balancer.backends.zipIdx.map Prod.snd).Nodup := by
    rw [List.zipIdx_map_snd]
    exact List.nodup_range'
  exact numbered.sublist (List.filter_sublist.map Prod.snd)

/-- With a total that fits, the loop returns the entry that holds the position of
`rr_index` among the weights. -/
theorem choose_of_total (checks : Bool) (fits : Search.totalWeight balancer.healthy < 2 ^ 32)
    (positive : 0 < Search.totalWeight balancer.healthy) :
    ∃ index next, balancer.choose checks = some (.inLoop index, next) ∧
      Search.pick balancer.healthy (balancer.rrIndex % Search.totalWeight balancer.healthy) =
        some index ∧
      next.backends = balancer.backends ∧
        next.rrIndex = (balancer.rrIndex + 1) % Search.totalWeight balancer.healthy := by
  have small : balancer.rrIndex % 2 ^ 32 = balancer.rrIndex :=
    Nat.mod_eq_of_lt (Nat.lt_of_succ_lt balancer.bounded)
  obtain ⟨index, picked⟩ := Option.isSome_iff_exists.mp
    (Search.pick_isSome_of_lt (Nat.mod_lt balancer.rrIndex positive))
  unfold choose
  cases listed : balancer.healthy with
  | nil =>
      rw [listed] at positive
      exact absurd positive (Nat.lt_irrefl 0)
  | cons entry rest =>
      obtain ⟨first, weight⟩ := entry
      rw [listed] at fits positive picked
      have nonzero : (⟨(((first, weight) :: rest).map Prod.snd).sum, fits⟩ : Fin (2 ^ 32)) ≠ 0 :=
        fun zero => Nat.ne_of_gt positive (congrArg Fin.val zero)
      have total : sumU32 checks (((first, weight) :: rest).map Prod.snd) =
          some ⟨(((first, weight) :: rest).map Prod.snd).sum, fits⟩ := dif_pos fits
      have chosen : Search.pick ((first, weight) :: rest) (balancer.rrIndex % 2 ^ 32 %
          (((first, weight) :: rest).map Prod.snd).sum) = some index := by
        rw [small]
        exact picked
      refine ⟨index, balancer.advance _ nonzero, ?_, picked, rfl, rfl⟩
      dsimp only
      rw [total, Option.map_some, dif_neg nonzero, chosen]
      rfl

end Balancer

end Evergreen.Proxy
