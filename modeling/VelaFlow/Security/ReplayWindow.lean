import Mathlib.Data.List.Nodup
import VelaFlow.Foundation.DateTime
import VelaFlow.Foundation.Machine
import VelaFlow.Security.RequestSigner

/-!
# Replays

The signer remembers the nonces of the requests it accepted by their number and not by their age:
past 10000 it forgets the oldest 5000. A request that is accepted a second time is one whose nonce
is forgotten while its timestamp is still within the window.
-/
namespace VelaFlow.Security

open RequestSigner (Fresh recordNonce)

/-- A call of `verify`. -/
structure VerifyCall where
  /-- `int(time.time())`. -/
  now : Int
  /-- `method`. -/
  method : String
  /-- `path`. -/
  path : String
  /-- `body`. -/
  body : List UInt8
  /-- `signed`. -/
  signed : SignedRequest

/-- A signer with the requests it accepted. -/
structure Verifier where
  /-- The time of the last call. -/
  clock : Int
  /-- `_seen_nonces`. -/
  seenNonces : List String := []
  /-- The requests it accepted, in order. -/
  accepted : List SignedRequest := []

namespace Verifier

variable (signer : RequestSigner)

/-- The answer to a call. -/
def answer (state : Verifier) (call : VerifyCall) : Except PyException Bool × List String :=
  signer.verify state.seenNonces call.now call.method call.path call.body
    call.signed

/-- One call. Time does not run backwards. -/
def step (state : Verifier) (call : VerifyCall) : Option Verifier :=
  if call.now < state.clock then none
  else some {
    clock := call.now
    seenNonces := (state.answer signer call).2
    accepted := match (state.answer signer call).1 with
      | .ok true => state.accepted ++ [call.signed]
      | _ => state.accepted }

/-- The number of accepted requests whose nonces are forgotten, of as many as were accepted. -/
def forgotten (count : Nat) : Nat := 5000 * ((count - 5001) / 5000)

/-- The nonces that are still remembered of the requests that were accepted. -/
def remembered (accepted : List SignedRequest) : List String :=
  (accepted.map SignedRequest.nonce).drop (forgotten accepted.length)

/-- A call is no replay of a forgotten request: a request that was accepted before, is still within
the window and has a signature that fits, is among those whose nonces are remembered. -/
def Careful (state : Verifier) (call : VerifyCall) : Prop :=
  call.signed ∈ state.accepted → Fresh call.now call.signed →
    signer.Fits call.method call.path call.body call.signed →
      call.signed.nonce ∈ remembered state.accepted

/-- The number of forgotten requests grows when there are 10000 remembered ones. -/
theorem forgotten_succ (count : Nat) : forgotten (count + 1) =
    if maxNonceCache < count + 1 - forgotten count then forgotten count + 5000
    else forgotten count := by
  unfold forgotten maxNonceCache
  split <;> omega

/-- No more requests are forgotten than were accepted. -/
theorem forgotten_le (count : Nat) : forgotten count ≤ count := by
  unfold forgotten
  omega

/-- Recording a nonce behind those that are remembered. -/
theorem recordNonce_remembered (accepted : List SignedRequest) (signed : SignedRequest) :
    recordNonce (remembered accepted) signed.nonce = remembered (accepted ++ [signed]) := by
  have within := forgotten_le accepted.length
  have recorded : remembered accepted ++ [signed.nonce] =
      ((accepted ++ [signed]).map SignedRequest.nonce).drop (forgotten accepted.length) := by
    rw [List.map_append, List.drop_append_of_le_length (by rw [List.length_map]; exact within)]
    rfl
  unfold recordNonce
  dsimp only
  rw [recorded, List.length_drop, List.length_map, List.length_append, List.length_singleton]
  unfold remembered
  rw [List.length_append, List.length_singleton, forgotten_succ]
  split
  · rw [List.drop_drop]
    rfl
  · rfl

variable {signer}

/-- An accepted call adds its request and records the nonce. -/
theorem step_of_accepts {state : Verifier} {call : VerifyCall} (later : ¬ call.now < state.clock)
    (accepts : (state.answer signer call).1 = .ok true) :
    step signer state call = some {
      clock := call.now
      seenNonces := recordNonce state.seenNonces call.signed.nonce
      accepted := state.accepted ++ [call.signed] } := by
  unfold step
  rw [if_neg later]
  simp only [accepts]
  rw [← RequestSigner.verify_of_true accepts]
  rfl

/-- A refused call changes nothing but the clock. -/
theorem step_of_refuses {state : Verifier} {call : VerifyCall} (later : ¬ call.now < state.clock)
    (refuses : (state.answer signer call).1 ≠ .ok true) :
    step signer state call = some { state with clock := call.now } := by
  have kept : (state.answer signer call).2 = state.seenNonces :=
    RequestSigner.verify_of_not_true refuses
  unfold step
  rw [if_neg later, kept]
  congr 2
  split
  · rename_i accepts
    exact absurd accepts refuses
  · rfl

/-- The signer remembers what it should of the requests it accepted. -/
def Records (state : Verifier) : Prop := state.seenNonces = remembered state.accepted

/-- A signer that has accepted nothing remembers nothing. -/
theorem records_start (start : Int) : Records { clock := start } := List.drop_nil.symm

/-- A call keeps the records, and accepts no request twice exactly when it is careful. -/
theorem step_records (state : Verifier) (call : VerifyCall) (next : Verifier)
    (records : state.Records) (moved : step signer state call = some next) :
    next.Records ∧ (next.accepted.Nodup ↔ state.accepted.Nodup ∧ Careful signer state call) := by
  unfold Records at records
  have later : ¬ call.now < state.clock := by
    intro early
    unfold step at moved
    rw [if_pos early] at moved
    cases moved
  by_cases accepts : (state.answer signer call).1 = .ok true
  · rw [step_of_accepts later accepts, Option.some.injEq] at moved
    subst moved
    obtain ⟨fresh, unused, fits⟩ := RequestSigner.verify_true_iff.mp accepts
    rw [records] at unused
    constructor
    · show recordNonce state.seenNonces call.signed.nonce = _
      rw [records, recordNonce_remembered]
    · have careful_iff : Careful signer state call ↔ call.signed ∉ state.accepted :=
        ⟨fun careful before => unused (careful before fresh fits),
          fun new before => absurd before new⟩
      show (state.accepted ++ [call.signed]).Nodup ↔ _
      rw [careful_iff, ← List.concat_eq_append, List.nodup_concat, and_comm]
  · rw [step_of_refuses later accepts, Option.some.injEq] at moved
    subst moved
    refine ⟨records, ⟨fun distinct => ⟨distinct, ?_⟩, And.left⟩⟩
    intro _ fresh fits
    by_contra unused
    rw [← records] at unused
    exact accepts (RequestSigner.verify_true_iff.mpr ⟨fresh, unused, fits⟩)

/-- A request that is among the last 5001 accepted ones is remembered. -/
theorem mem_remembered_of_recent {accepted : List SignedRequest} {signed : SignedRequest}
    (recent : signed ∈ accepted.drop (accepted.length - 5001)) :
    signed.nonce ∈ remembered accepted := by
  unfold remembered
  rw [← List.map_drop]
  have before : forgotten accepted.length ≤ accepted.length - 5001 := by
    unfold forgotten
    omega
  exact List.mem_map_of_mem (List.drop_subset_drop_left _ before recent)

/-- The requests a run accepts are different exactly when none of its calls replays a request that
is forgotten. -/
theorem nodup_accepted_iff (signer : RequestSigner) {start : Int} {calls : List VerifyCall}
    {final : Verifier}
    (ran : Machine.run (step signer) { clock := start } calls = some final) :
    final.accepted.Nodup ↔
      Machine.Meets (step signer) (Careful signer) { clock := start } calls := by
  have exact := Machine.run_iff_meets Records (fun state => state.accepted.Nodup)
    (@step_records signer) (records_start start) ran
  rw [exact]
  exact and_iff_right List.nodup_nil

end Verifier

section Flood

open Verifier

/-- The requests of a flood, by their number: each has a nonce of its own. -/
def floodRequest (signer : RequestSigner) (number : Nat) : SignedRequest :=
  signer.sign "GET" "/health" [] "api" 0 (String.ofList (digits 32 number))

/-- A call that presents a request of the flood. -/
def floodCall (signer : RequestSigner) (number : Nat) : VerifyCall :=
  ⟨0, "GET", "/health", [], floodRequest signer number⟩

/-- 10001 different requests and then the first of them again, all at one time. -/
def flood (signer : RequestSigner) : List VerifyCall :=
  (List.range 10001).map (floodCall signer) ++ [floodCall signer 0]

variable {signer : RequestSigner}

/-- The nonces of the flood are different. -/
theorem floodRequest_inj {first second : Nat} (one : first < 10 ^ 32) (other : second < 10 ^ 32)
    (same : (floodRequest signer first).nonce = (floodRequest signer second).nonce) :
    first = second := by
  have characters : digits 32 first ++ [] = digits 32 second ++ [] := by
    rw [List.append_nil, List.append_nil]
    exact String.ofList_injective same
  exact (digits_inj one other characters).1

/-- A request of the flood is accepted as long as its nonce is not remembered. -/
theorem answer_floodCall (ascii : ∀ message, RequestSigner.isAscii (signer.hmac message) = true)
    {state : Verifier} {number : Nat}
    (unused : (floodRequest signer number).nonce ∉ state.seenNonces) :
    (state.answer signer (floodCall signer number)).1 = .ok true := by
  apply RequestSigner.verify_true_iff.mpr
  refine ⟨?_, unused, ascii _, rfl⟩
  show (0 - 0 : Int).natAbs ≤ maxTimestampDrift
  decide

/-- Every request of the flood is accepted the first time. -/
theorem run_flood (ascii : ∀ message, RequestSigner.isAscii (signer.hmac message) = true)
    {count : Nat} (small : count ≤ 10 ^ 32) :
    ∃ state, Machine.run (step signer) { clock := 0 } ((List.range count).map (floodCall signer)) =
        some state ∧ state.Records ∧ state.clock = 0 ∧
      state.accepted = (List.range count).map (floodRequest signer) := by
  induction count with
  | zero => exact ⟨_, rfl, Verifier.records_start 0, rfl, rfl⟩
  | succ count ih =>
    obtain ⟨state, ran, records, clock, accepted⟩ := ih (by omega)
    have later : ¬ (floodCall signer count).now < state.clock := by
      rw [clock]
      exact lt_irrefl _
    have unused : (floodRequest signer count).nonce ∉ state.seenNonces := by
      intro used
      rw [show state.seenNonces = _ from records, accepted] at used
      obtain ⟨request, member, is⟩ := List.mem_map.mp (List.mem_of_mem_drop used)
      obtain ⟨number, inside, rfl⟩ := List.mem_map.mp member
      have before := List.mem_range.mp inside
      have same := floodRequest_inj (by omega) (by omega) is
      omega
    have moved := step_of_accepts later (answer_floodCall ascii unused)
    refine ⟨_, ?_, (step_records _ _ _ records moved).1, rfl, ?_⟩
    · rw [List.range_succ, List.map_append, Machine.run_append, ran]
      exact (Machine.run_singleton _ _).trans moved
    · show state.accepted ++ [floodRequest signer count] = _
      rw [accepted, List.range_succ, List.map_append]
      rfl

/-- The first request of the flood is accepted again. -/
theorem run_flood_again
    (ascii : ∀ message, RequestSigner.isAscii (signer.hmac message) = true) :
    ∃ final, Machine.run (step signer) { clock := 0 } (flood signer) = some final ∧
      ¬ final.accepted.Nodup := by
  obtain ⟨state, ran, records, clock, accepted⟩ := @run_flood signer ascii 10001 (by omega)
  have later : ¬ (floodCall signer 0).now < state.clock := by
    rw [clock]
    exact lt_irrefl _
  have unused : (floodRequest signer 0).nonce ∉ state.seenNonces := by
    intro used
    have lost : forgotten ((List.range 10001).map (floodRequest signer)).length = 5000 := by
      rw [List.length_map, List.length_range]
      rfl
    rw [show state.seenNonces = _ from records, accepted, remembered, lost, List.map_map,
      ← List.map_drop, List.range_eq_range', List.drop_range'] at used
    obtain ⟨number, inside, is⟩ := List.mem_map.mp used
    have bounds := List.mem_range'_1.mp inside
    have first := floodRequest_inj (by omega) (by omega) is
    omega
  have moved := step_of_accepts later (answer_floodCall ascii unused)
  have whole : Machine.run (step signer) { clock := 0 } (flood signer) =
      step signer state (floodCall signer 0) := by
    unfold flood
    rw [Machine.run_append, ran]
    exact Machine.run_singleton _ _
  refine ⟨_, whole.trans moved, fun distinct => ?_⟩
  have twice : (state.accepted ++ [floodRequest signer 0]).Nodup := distinct
  have first : floodRequest signer 0 ∈ state.accepted := by
    rw [accepted]
    exact List.mem_map_of_mem (List.mem_range.mpr (by omega))
  exact (List.nodup_append.mp twice).2.2 _ first _ (List.mem_singleton.mpr rfl) rfl

/-- A flood makes the sample signer accept a request twice. -/
theorem flood_replayed : ∃ final,
    Machine.run (step sampleSigner) { clock := 0 } (flood sampleSigner) = some final ∧
      ¬ final.accepted.Nodup := run_flood_again isAscii_sampleSigner

/-- A run in which a request is presented twice in a row, and accepted once. -/
theorem nodup_accepted_pair : ∃ final,
    Machine.run (step sampleSigner) { clock := 0 }
      [floodCall sampleSigner 0, floodCall sampleSigner 0] = some final ∧
    (final.accepted.Nodup ↔ Machine.Meets (step sampleSigner) (Careful sampleSigner)
      { clock := 0 } [floodCall sampleSigner 0, floodCall sampleSigner 0]) :=
  ⟨_, rfl, nodup_accepted_iff sampleSigner rfl⟩

end Flood

end VelaFlow.Security
