import TrustWasm.IoHelper.Locality

/-!
# The shape of a submission

The four submission commands are rejected, or they allocate their argument
buffers one after the other, giving up at the first that is refused, and then
submit the request.  What holds of every submission is proved by induction on
this shape.
-/

namespace TrustWasm.IoHelper

open TrustWasm.Lib TrustWasm.Tee

/-- The operations a copy into an argument buffer is made of. -/
def HelperOp.IsCopy : HelperOp → Prop
  | .loadClient .. | .storeByte .. => True
  | _ => False

theorem HelperOp.IsCopy.isLocal {op : HelperOp} (isCopy : op.IsCopy) : op.IsLocal := by
  cases op
  case loadClient | storeByte => trivial
  all_goals exact isCopy.elim

theorem copyIn_uses (dst src : Ptr) (count offset : Nat) :
    (copyIn dst src count offset).Uses HelperOp.IsCopy := by
  induction count generalizing offset with
  | zero => trivial
  | succ count ih =>
    refine Program.Uses.bind ⟨trivial, fun _ => trivial⟩ fun byte => ?_
    exact Program.Uses.bind ⟨trivial, fun _ => trivial⟩ fun _ => ih (offset + 1)

/-- The program submits a request of the given type numbered `serial` to peripheral
`p`, with the argument buffers `args` allocated so far. -/
inductive Submits (serial p : Nat) (type : IoReqType) :
    List Ptr → Program Helper CommandResult → Prop where
  | rejected {args : List Ptr} {code : TeeResult} {params : Params} :
      code ≠ teeSuccess → Submits serial p type args (pure (.error code params))
  | alloc {args : List Ptr} {size : Nat} {params : Params}
      {rest : Ptr → Program Helper CommandResult} :
      (∀ buf ≠ null, Submits serial p type (args ++ [buf]) (rest buf)) →
      Submits serial p type args (do
        let buf ← malloc size
        if buf = null then return .error teeErrorOutOfMemory params
        rest buf)
  | request {args : List Ptr} {params : Params} {copy : Program Helper Unit} {req : Nat → IoReq} :
      p < nPeriph → copy.Uses HelperOp.IsCopy → (∀ q, (req q).signo = q) →
      (∀ q, (req q).ticket = ⟨serial, args⟩) → (∀ q, (req q).type = type) →
      Submits serial p type args (submitReq p params copy req)

theorem toUint16_eq_of_lt {word : BitVec 32} (small : word.toNat < nPeriph) :
    toUint16 word = word.toNat := by
  unfold toUint16 nPeriph at *
  omega

theorem toUint16_lt {word : BitVec 32} (checked : ¬nPeriph ≤ word.toNat) :
    toUint16 word < nPeriph := by
  have small := Nat.lt_of_not_le checked
  rw [toUint16_eq_of_lt small]
  exact small

/-- The checks of a submission: its parameter types and its peripheral. -/
theorem Submits.checked {serial : Nat} {type : IoReqType} {types wanted : BitVec 32}
    {params : Params}
    {body : Program Helper CommandResult}
    (accepted : toUint16 params.p0.a < nPeriph →
      Submits serial (toUint16 params.p0.a) type [] body) :
    Submits serial (toUint16 params.p0.a) type []
      (if types ≠ wanted then return .error teeErrorBadParameters params
        else if nPeriph ≤ params.p0.a.toNat then return .error teeErrorBadParameters params
        else body) := by
  have bad : teeErrorBadParameters ≠ teeSuccess := by decide
  split
  · exact .rejected bad
  · split
    · exact .rejected bad
    · rename_i inRange
      exact accepted (toUint16_lt inRange)

theorem Submission.submits (submission : Submission) (serial : Nat) :
    Submits serial (toUint16 submission.params.p0.a) (.ofCode submission.params.p0.b) []
      (submission.program serial) := by
  unfold Submission.program
  split
  · exact Submits.checked fun inRange =>
      .request inRange trivial (fun _ => rfl) (fun _ => rfl) fun _ => rfl
  · exact Submits.checked fun inRange => .alloc fun buf _ =>
      .request inRange (copyIn_uses _ _ _ _) (fun _ => rfl) (fun _ => rfl) fun _ => rfl
  · refine Submits.checked fun inRange => ?_
    split
    · exact .alloc fun buf _ =>
        .request inRange (copyIn_uses _ _ _ _) (fun _ => rfl) (fun _ => rfl) fun _ => rfl
    · exact .request inRange (copyIn_uses _ _ _ _) (fun _ => rfl) (fun _ => rfl) fun _ => rfl
  · exact Submits.checked fun inRange => .alloc fun first _ => .alloc fun second _ =>
      .request inRange
        ((copyIn_uses _ _ _ _).bind fun _ => copyIn_uses _ _ _ _)
        (fun _ => rfl) (fun _ => rfl) fun _ => rfl

/-- A submission calls nothing but allocations and copies before it enqueues its
request. -/
theorem Submits.uses {P : HelperOp → Prop} {serial p : Nat} {type : IoReqType} {args : List Ptr}
    {program : Program Helper CommandResult} (submits : Submits serial p type args program)
    (mallocs : ∀ size, P (.malloc size)) (allocates : P (.allocateSigno p))
    (copies : ∀ op, HelperOp.IsCopy op → P op)
    (enqueues : ∀ req : IoReq, req.type = type → P (.enqueue p req)) : program.Uses P := by
  induction submits with
  | rejected _ => trivial
  | alloc _ ih =>
    refine .perform_bind (mallocs _) fun buf => ?_
    split
    · trivial
    · exact ih buf ‹_›
  | request _ copy _ _ types =>
    refine .perform_bind allocates fun signo => ?_
    cases signo with
    | none => trivial
    | some signo =>
      refine (copy.mono copies).bind fun _ => ?_
      exact .perform_bind (enqueues _ (types signo)) fun _ => trivial

end TrustWasm.IoHelper
