import BofWebRpc.Library.Query
import BofWebRpc.WebSocket.Registry

/-!
# The key of a client

`Connect` stores the key in a fixed buffer, the CONNECT command puts it into the path of
the URL, and `libwebsockets` splits the query at `&` and decodes it for
ADD_HEADERS. ESTABLISHED, a later call of the same function, registers the content of a
local variable that only ADD_HEADERS assigns.

## What is proved

* `registered_key_iff` — an admitted client is registered under its key if and only if that
  variable happens to hold the key.
* `urlKey_eq_iff` — ADD_HEADERS sees the key if and only if it has no `&` and no escapes: the
  path is not encoded.
-/

namespace BofWebRpc.WebSocket

open Runs

variable {cfg : WebSocketParam}

/-! ### From Connect to ADD_HEADERS -/

/-- The characters before the first NUL. -/
def cString (l : List Char) : List Char := l.takeWhile (· ≠ Char.ofNat 0)

/-- `snprintf` into an array of `size` characters. -/
def snprintf (size : ℕ) (l : List Char) : List Char := l.take (size - 1)

/-- `WS_CLT_KEY_ARG`. -/
def wsCltKeyArg : List Char := "bof_ws_clt_key=".toList

/-- `pWsCltKey_c` of the parameters of a CONNECT, as `Connect` sets it. -/
def connectKey (key : Key) : Key := snprintf wsCltMaxKeyLen (cString key)

/-- The query of the path that the CONNECT command builds, which starts with `/?`. -/
def connectQuery (key : Key) : List Char := (snprintf 0x200 (['/', '?'] ++ wsCltKeyArg ++ connectKey key)).drop 2

/-- What `lws_get_urlarg_by_name` finds for a client that connects with the given key. -/
def urlKey (key : Key) : Option Key := Query.argument wsCltKeyArg (connectQuery key)

/-- A key without NUL that is short enough reaches the query. -/
theorem connectQuery_eq {key : Key} (hnul : Char.ofNat 0 ∉ key) (hshort : key.length < wsCltMaxKeyLen) :
    connectQuery key = wsCltKeyArg ++ key := by
  have hstring : cString key = key :=
    List.takeWhile_eq_self_iff.mpr fun c hc => by simpa using fun he : c = Char.ofNat 0 => hnul (he ▸ hc)
  have hkey : connectKey key = key := by
    rw [connectKey, hstring, snprintf, List.take_of_length_le (Nat.le_sub_one_of_lt hshort)]
  have hlength : (['/', '?'] ++ wsCltKeyArg ++ key).length ≤ 0x200 - 1 := by
    have hname : (['/', '?'] ++ wsCltKeyArg).length = 17 := by decide +kernel
    rw [List.length_append, hname]
    simp only [wsCltMaxKeyLen] at hshort
    omega
  rw [connectQuery, hkey, snprintf, List.take_of_length_le hlength]
  rfl

/-- **ADD_HEADERS sees the key** that the client has passed to `Connect` exactly when it has no `&` and
decoding does not change it. -/
theorem urlKey_eq_iff {key : Key} (hnul : Char.ofNat 0 ∉ key) (hshort : key.length < wsCltMaxKeyLen) :
    urlKey key = some key ↔ '&' ∉ key ∧ Query.percentDecode key = key := by
  rw [urlKey, connectQuery_eq hnul hshort]
  exact Query.argument_append_iff (by decide +kernel) (by decide +kernel) key

/-! ### From ADD_HEADERS to the registry -/

/-- The handshake of the connection `w` with the given key: `before` and `between` are whatever else
happens, and `content` is what ESTABLISHED finds in `pWsCltKey_c`. -/
def handshake (w : Wsi) (key : Key) (bufferSize : Bool) (content : Key) (before between : List Event) : List Event :=
  before ++ [.callback (.addHeaders w (urlKey key))] ++ between ++ [.callback (.established w bufferSize content)]

/-- The collection holds the connection under the given key. -/
def State.registers (s : State cfg) (key : Key) (w : Wsi) : Prop :=
  ∃ c ∈ s.clientCollection, c.1 = key ∧ c.2.pWebSocket = some w

instance (s : State cfg) (key : Key) (w : Wsi) : Decidable (s.registers key w) :=
  inferInstanceAs (Decidable (∃ _ ∈ _, _ ∧ _))

/-- **The registered key**: of a client that the server admits after any run, it is the key passed to
`Connect` if and only if the variable read by ESTABLISHED holds that key. -/
theorem registered_key_iff (hserver : cfg.nbMaxClient ≠ 0) {w : Wsi} {key content : Key} {bufferSize : Bool}
    {before between : List Event}
    (h : Meets watch (fun p e => e.Lawful p) (Watched.start : Watched cfg)
      (handshake w key bufferSize content before between))
    (hadmitted : w ∈ (exec watch (Watched.start : Watched cfg)
      (handshake w key bufferSize content before between)).2.admitted) :
    (exec watch (Watched.start : Watched cfg) (handshake w key bufferSize content before between)).1.registers key w ↔
      content = key := by
  unfold handshake at h hadmitted ⊢
  rw [exec_append] at hadmitted ⊢
  obtain ⟨hbefore, hlast, -⟩ := meets_append.mp h
  have hregistering := exec_inv (I := fun p : Watched cfg => Registering p.1 p.2) (watch_registering hserver) _
    Watched.start start_registering hbefore
  generalize exec watch Watched.start (before ++ [.callback (.addHeaders w (urlKey key))] ++ between) = p
    at hregistering hlast hadmitted ⊢
  obtain ⟨s, m⟩ := p
  obtain ⟨-, hfree⟩ := hlast
  have hnew : w ∉ m.admitted := fun hw => hfree (hregistering.established w hw)
  have hnone : ∀ c ∈ s.clientCollection, c.2.pWebSocket ≠ some w := by
    intro c hc hcw
    obtain ⟨v, hv, hcv⟩ := hregistering.admitted c hc
    rw [hcv, Option.some.injEq] at hcw
    exact hnew (hcw ▸ hv)
  simp only [exec_cons, exec_nil, watch, step, Connections.follow] at hadmitted ⊢
  split_ifs at hadmitted ⊢ with hcontext
  · simp only [Connections.callback, lwsCallback] at hadmitted ⊢
    cases bufferSize with
    | false => exact absurd hadmitted hnew
    | true =>
      obtain ⟨data, hdata, -, ⟨-, -, hclients⟩ | ⟨-, hanswer, -⟩⟩ := onEstablished_clients s w content
      · unfold State.registers
        rw [hclients]
        constructor
        · rintro ⟨c, hc, hkey, hcw⟩
          rcases List.mem_append.mp hc with hc | hc
          · exact absurd hcw (hnone c hc)
          · rw [← hkey, List.mem_singleton.mp hc]
        · rintro rfl
          exact ⟨_, List.mem_append_right _ (List.mem_singleton_self _), rfl, hdata⟩
      · rw [hanswer] at hadmitted
        exact absurd hadmitted hnew
  · exact absurd hadmitted hnew

/-- The variable still holds what ADD_HEADERS has put there. -/
theorem registered_key_iff_kept :
    (exec watch (Watched.start : Watched server)
      (handshake 1 ['k'] true ['k'] (Event.execute 0 0 .listen) [])).1.registers ['k'] 1 := by
  have hlawful : Meets watch (fun p e => e.Lawful p) (Watched.start : Watched server)
      (handshake 1 ['k'] true ['k'] (Event.execute 0 0 .listen) []) := by decide +kernel
  have hadmitted : 1 ∈ (exec watch (Watched.start : Watched server)
      (handshake 1 ['k'] true ['k'] (Event.execute 0 0 .listen) [])).2.admitted := by decide +kernel
  exact (registered_key_iff (by decide) hlawful hadmitted).mpr rfl

/-- The variable holds anything: the client `k` is registered as `x`. -/
theorem not_registered_key :
    ¬ ∀ (cfg : WebSocketParam) (w : Wsi) (key content : Key) (bufferSize : Bool) (before between : List Event),
      key ≠ [] → key.length < wsCltMaxKeyLen →
      Meets watch (fun p e => e.Lawful p) (Watched.start : Watched cfg)
        (handshake w key bufferSize content before between) →
      w ∈ (exec watch (Watched.start : Watched cfg)
        (handshake w key bufferSize content before between)).2.admitted →
      (exec watch (Watched.start : Watched cfg)
        (handshake w key bufferSize content before between)).1.registers key w := by
  intro h
  have hother := h server 1 ['k'] ['x'] true (Event.execute 0 0 .listen) [] (by decide) (by decide) (by decide +kernel)
    (by decide +kernel)
  exact absurd hother (by decide +kernel)

end BofWebRpc.WebSocket
