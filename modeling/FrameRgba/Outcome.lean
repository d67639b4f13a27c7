import FrameRgba.Buffer

/-!
# Outcomes of a write

A write takes a destination and ends in one of three ways: it is done, it refuses its input, or it
faults. The destination after the call is part of the first two, so that what a refused write leaves
behind can be seen and not only assumed.

`require` and `checked` run a test in front of a write, `andThen` and `inTurn` run writes one after
the other until one of them stops, and `within` runs a write on a window of a larger buffer.
-/

namespace FrameRgba

/-- How a write into a destination of type `σ` ended; `ε` holds the reasons to refuse. -/
inductive Outcome (ε σ : Type) where
  | done (dst : σ)
  /-- The write was refused, and the destination is now `dst`. -/
  | refused (error : ε) (dst : σ)
  | fault (cause : Fault)
  deriving DecidableEq, Repr

namespace Outcome

variable {α β ε ε' σ τ : Type}

/-- Go on with the value of a test, or refuse and leave the destination as it is. -/
def require (test : Except ε β) (dst : σ) (next : β → Outcome ε σ) : Outcome ε σ :=
  match test with
  | .ok value => next value
  | .error e => .refused e dst

/-- Go on with the value of a checked computation. -/
def checked (value : Checked β) (next : β → Outcome ε σ) : Outcome ε σ :=
  match value with
  | .ok value => next value
  | .error cause => .fault cause

/-- The same outcome for a destination seen as another type. -/
def map (f : σ → τ) : Outcome ε σ → Outcome ε τ
  | .done dst => .done (f dst)
  | .refused e dst => .refused e (f dst)
  | .fault cause => .fault cause

/-- The same outcome with the reason of a refusal said in other terms. -/
def mapError (f : ε → ε') : Outcome ε σ → Outcome ε' σ
  | .done dst => .done dst
  | .refused e dst => .refused (f e) dst
  | .fault cause => .fault cause

/-- Go on writing if the first write is done. -/
def andThen (first : Outcome ε σ) (next : σ → Outcome ε σ) : Outcome ε σ :=
  match first with
  | .done dst => next dst
  | .refused e dst => .refused e dst
  | .fault cause => .fault cause

/-- Make one write for each job, in the order of the list, until one is not done. -/
def inTurn (write : β → σ → Outcome ε σ) : List β → σ → Outcome ε σ
  | [], dst => .done dst
  | job :: jobs, dst => (write job dst).andThen (inTurn write jobs)

/-- Run a write on the window `start..stop` of a buffer and put the window back, whether the write
was done or refused. -/
def within (buffer : Array α) (start stop : Nat)
    (write : Array α → Outcome ε (Array α)) : Outcome ε (Array α) :=
  checked (Buffer.window buffer start stop) fun window =>
    (write window).map fun written => Buffer.overwrite buffer start written.toList

@[simp] theorem require_ok (value : β) (dst : σ) (next : β → Outcome ε σ) :
    require (.ok value) dst next = next value :=
  rfl

@[simp] theorem require_error (e : ε) (dst : σ) (next : β → Outcome ε σ) :
    require (.error e) dst next = .refused e dst :=
  rfl

@[simp] theorem checked_ok (value : β) (next : β → Outcome ε σ) :
    checked (.ok value) next = next value :=
  rfl

@[simp] theorem checked_error (cause : Fault) (next : β → Outcome ε σ) :
    checked (.error cause) next = .fault cause :=
  rfl

@[simp] theorem andThen_done (dst : σ) (next : σ → Outcome ε σ) :
    andThen (.done dst) next = next dst :=
  rfl

@[simp] theorem inTurn_nil (write : β → σ → Outcome ε σ) (dst : σ) :
    inTurn write [] dst = .done dst :=
  rfl

theorem inTurn_cons (write : β → σ → Outcome ε σ) (job : β) (jobs : List β) (dst : σ) :
    inTurn write (job :: jobs) dst = (write job dst).andThen (inTurn write jobs) :=
  rfl

theorem inTurn_append (write : β → σ → Outcome ε σ) (first second : List β) (dst : σ) :
    inTurn write (first ++ second) dst =
      (inTurn write first dst).andThen (inTurn write second) := by
  induction first generalizing dst with
  | nil => rfl
  | cons job first ih =>
    rw [List.cons_append, inTurn_cons, inTurn_cons]
    cases write job dst with
    | done dst => exact ih dst
    | refused e dst => rfl
    | fault cause => rfl

end Outcome

end FrameRgba
