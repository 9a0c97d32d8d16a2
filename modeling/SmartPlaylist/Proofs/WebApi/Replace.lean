import SmartPlaylist.Proofs.Json.RoundTrip
import SmartPlaylist.Proofs.List.InOrder
import SmartPlaylist.Proofs.Remote.Batch
import SmartPlaylist.Proofs.WebApi.Attempt

/-!
# Replacing the tracks of a playlist

The tracks of a playlist are replaced in several requests: the first part replaces what is there, and
every further part is added at its end.  Each request is tried as any other is, and the next one is
only sent when it was accepted.  So a playlist has its old tracks, or the first parts of the new ones.

## Main definitions

* `Upload` — what a request does to a playlist; `uploads` — those that give it its tracks.
* `HttpRequest.upload?` — what a request asks for.
* `contentAfter` — what a playlist holds once requests were answered.
* `Delivered` — uploads are sent one after the other, each until it is accepted.

## Main results

* `HttpRequest.upload?_request` — a request asks for the upload that it was made for.
* `Client.Tried.acceptedUploads` — the tries of an upload bring it once, or not at all.
* `Delivered.exists_accepted` — the first uploads are accepted.
* `Client.replaceTracks_content` — **what the playlist holds afterwards.**
-/

namespace SmartPlaylist

variable {τ : Type}

/-! ### Uploads -/

/-- What a request does to a playlist. -/
inductive Upload where
  | replace (uris : List String)
  | append (uris : List String)
  deriving DecidableEq, Repr

namespace Upload

def method : Upload → HttpMethod
  | replace _ => .put
  | append _ => .post

def uris : Upload → List String
  | replace uris => uris
  | append uris => uris

/-- What the playlist holds after the upload. -/
def applyTo (content : List String) : Upload → List String
  | replace uris => uris
  | append uris => content ++ uris

/-- The request that is made for the upload. -/
def request (u : Upload) (address : Url) : HttpRequest :=
  .withJson u.method address (Client.urisBody u.uris)

theorem foldl_append (content : List String) (parts : List (List String)) :
    (parts.map append).foldl applyTo content = content ++ parts.flatten := by
  induction parts generalizing content with
  | nil => exact (List.append_nil content).symm
  | cons part parts ih =>
    rw [List.map_cons, List.foldl_cons, ih, List.flatten_cons, ← List.append_assoc]
    rfl

end Upload

/-- The uploads that give a playlist its tracks. -/
def uploads (uris : List String) : List Upload :=
  .replace (uris.take playlistBatchSize) ::
    (batches playlistBatchSize (uris.drop playlistBatchSize)).map .append

/-- No upload is too large for the service. -/
theorem length_uris_le_of_mem_uploads {uris : List String} {u : Upload} (h : u ∈ uploads uris) :
    u.uris.length ≤ playlistBatchSize := by
  rcases List.mem_cons.mp h with rfl | h
  · exact List.length_take_le _ _
  · obtain ⟨part, hpart, rfl⟩ := List.mem_map.mp h
    obtain ⟨i, hi⟩ := List.mem_iff_getElem?.mp hpart
    rw [getElem?_batches (by decide)] at hi
    split at hi
    · obtain rfl := Option.some.inj hi
      exact List.length_take_le _ _
    · cases hi

/-- The uploads bring all the tracks. -/
theorem foldl_uploads (prior uris : List String) :
    (uploads uris).foldl Upload.applyTo prior = uris := by
  rw [uploads, List.foldl_cons, Upload.foldl_append, flatten_batches (by decide)]
  exact List.take_append_drop _ _

/-- The first uploads bring the beginning of the tracks. -/
theorem foldl_take_uploads (prior uris : List String) (k : Nat) :
    ((uploads uris).take (k + 1)).foldl Upload.applyTo prior
      = uris.take (playlistBatchSize * (k + 1)) := by
  rw [uploads, List.take_succ_cons, List.foldl_cons, ← List.map_take, Upload.foldl_append,
    flatten_take_batches (by decide), Nat.mul_succ, Nat.add_comm, List.take_add]
  rfl

/-- There is one upload for each multiple of the batch size that is less than the number of tracks,
and always a first one. -/
theorem lt_length_uploads_iff (uris : List String) (k : Nat) :
    k + 1 < (uploads uris).length ↔ playlistBatchSize * (k + 1) < uris.length := by
  rw [uploads, List.length_cons, List.length_map, Nat.add_lt_add_iff_right,
    lt_length_batches_iff (by decide), List.length_drop, Nat.mul_succ]
  omega

/-! ### What requests ask for -/

/-- The URIs in the body of a request. -/
def uris? (body : String) : Option (List String) :=
  (Json.Kind.any.ofBytes? (Text.utf8 body)).bind
    (Client.only "uris" Client.plainText.list).ofJson?

theorem uris?_urisBody (uris : List String) :
    uris? (Client.urisBody uris).compact = some uris := by
  have hitems : ∀ v ∈ uris.map Json.string, Json.Storable 125 v := by simp [Json.Storable.string]
  have hstorable : Json.Storable 127 (Client.urisBody uris) :=
    .object (by simpa using Json.Storable.array hitems)
  rw [uris?, Json.Kind.ofBytes?_any hstorable]
  show (uris.map Json.string).mapM Json.text? = some uris
  exact mapM_eq_some_iff.mpr
    (List.forall₂_map_left_iff.mpr (List.forall₂_same.mpr fun _ _ => rfl))

namespace HttpRequest

/-- What a request asks for. -/
def upload? (address : Option Url) (r : HttpRequest) : Option Upload :=
  if some r.url = address ∧ r.contentType = some "application/json" then
    match r.method with
    | .get => none
    | .post => (uris? r.body).map .append
    | .put => (uris? r.body).map .replace
  else none

/-- A request asks for the upload that it was made for. -/
theorem upload?_request (u : Upload) (address : Url) (token : String) :
    ((u.request address).withToken token).upload? (some address) = some u := by
  rw [upload?, if_pos ⟨rfl, rfl⟩]
  cases u with
  | replace uris => exact congrArg (Option.map Upload.replace) (uris?_urisBody uris)
  | append uris => exact congrArg (Option.map Upload.append) (uris?_urisBody uris)

end HttpRequest

/-! ### What the playlist holds -/

/-- Whether a request was answered with success. -/
def Exchange.isSuccess (x : Exchange) : Bool := x.answer.any fun response => !response.isError

theorem Exchange.isSuccess_eq_false {x : Exchange}
    (h : ∀ response ∈ x.answer, response.isError = true) : x.isSuccess = false := by
  rw [isSuccess, Option.any_eq_false]
  intro response hanswer
  rw [h response hanswer]
  decide

/-- The exchange changes no playlist: it is a form, or was not answered with success. -/
def Exchange.IsIdle (x : Exchange) : Prop := x.IsForm ∨ x.isSuccess = false

/-- The uploads that the service accepted. -/
def acceptedUploads (address : Option Url) (exchanges : List Exchange) : List Upload :=
  (exchanges.filter Exchange.isSuccess).filterMap fun x => x.request.upload? address

/-- What a playlist holds after requests and their answers: an upload that was answered with success
is done, and all others are not. -/
def contentAfter (address : Option Url) (prior : List String) (exchanges : List Exchange) :
    List String :=
  (acceptedUploads address exchanges).foldl Upload.applyTo prior

theorem acceptedUploads_append (address : Option Url) (earlier later : List Exchange) :
    acceptedUploads address (earlier ++ later)
      = acceptedUploads address earlier ++ acceptedUploads address later := by
  rw [acceptedUploads, List.filter_append, List.filterMap_append]
  rfl

/-- Forms ask for no upload, and one that was not answered with success is not done. -/
theorem acceptedUploads_of_isIdle {exchanges : List Exchange} (h : ∀ x ∈ exchanges, x.IsIdle)
    (address : Option Url) : acceptedUploads address exchanges = [] := by
  refine List.filterMap_eq_nil_iff.mpr fun x hx => ?_
  obtain ⟨hx, hsuccess⟩ := List.mem_filter.mp hx
  rcases h x hx with hform | hfailed
  · rw [HttpRequest.upload?, if_neg]
    rintro ⟨-, hjson⟩
    exact absurd (hform.symm.trans hjson) (by decide)
  · rw [hfailed] at hsuccess
    nomatch hsuccess

/-- An upload that was answered with success is done. -/
theorem acceptedUploads_of_succeeded {x : Exchange} {response : HttpResponse} {u : Upload}
    {address : Option Url} (hanswer : x.answer = some response) (hfine : response.isError = false)
    (hupload : x.request.upload? address = some u) : acceptedUploads address [x] = [u] := by
  have hsuccess : x.isSuccess = true := by
    rw [Exchange.isSuccess, hanswer, Option.any_some, hfine]
    rfl
  rw [acceptedUploads, List.filter_singleton, hsuccess]
  exact List.filterMap_cons_some hupload

/-! ### Deliveries -/

/-- An answer that calls back reports an error. -/
theorem HttpResponse.CallsBack.isError {response : HttpResponse} {seconds : Nat}
    (h : response.CallsBack seconds) : response.isError = true := by
  cases h with
  | unavailable hstatus | busy hstatus => simp [HttpResponse.isError, hstatus]

/-- What tries do to a playlist.  They do not change it, but for the last one when they end well. -/
inductive Settled (request : Option HttpRequest) :
    List Exchange → Except RemoteError HttpResponse → Prop where
  | failed {e : RemoteError} {idle : List Exchange} (hidle : ∀ x ∈ idle, x.IsIdle) :
      Settled request idle (.error e)
  | succeeded {r : HttpRequest} {token : String} {x : Exchange} {response : HttpResponse}
      {idle : List Exchange} (hidle : ∀ y ∈ idle, y.IsIdle) (hrequest : request = some r)
      (hx : x.request = r.withToken token) (hanswer : x.answer = some response)
      (hfine : response.isError = false) : Settled request (idle ++ [x]) (.ok response)

namespace Settled

variable {request : Option HttpRequest} {idle exchanges : List Exchange}
  {result : Except RemoteError HttpResponse}

theorem append (hidle : ∀ x ∈ idle, x.IsIdle) (h : Settled request exchanges result) :
    Settled request (idle ++ exchanges) result := by
  cases h with
  | failed hidle' => exact .failed (List.forall_mem_append.mpr ⟨hidle, hidle'⟩)
  | succeeded hidle' hrequest hx hanswer hfine =>
    rw [← List.append_assoc]
    exact .succeeded (List.forall_mem_append.mpr ⟨hidle, hidle'⟩) hrequest hx hanswer hfine

/-- **An upload is brought once, or not at all.** -/
theorem acceptedUploads_eq {address : Option Url} {u : Upload}
    (h : Settled (address.map u.request) exchanges result) :
    acceptedUploads address exchanges = if result.isOk then [u] else [] := by
  cases h with
  | failed hidle => exact acceptedUploads_of_isIdle hidle address
  | succeeded hidle hrequest hx hanswer hfine =>
    obtain ⟨url, rfl, rfl⟩ := Option.map_eq_some_iff.mp hrequest
    rw [acceptedUploads_append, acceptedUploads_of_isIdle hidle]
    refine acceptedUploads_of_succeeded hanswer hfine ?_
    rw [hx, HttpRequest.upload?_request]

end Settled

namespace Client

variable {cfg : Config τ} {c after : Client (Traced τ Exchange)} {exchanges : List Exchange}

theorem Serves.isIdle {result : Except RemoteError String}
    (h : Serves cfg c result after exchanges) : ∀ x ∈ exchanges, x.IsIdle :=
  fun x hx => .inl (h.isForm x hx)

/-- **What the tries of a request do to a playlist.** -/
theorem Tried.settled {request : Option HttpRequest} {n : Nat}
    {result : Except RemoteError HttpResponse}
    (h : Tried cfg request n c exchanges result after) : Settled request exchanges result := by
  have hidle {x : Exchange} (h : ∀ response ∈ x.answer, response.isError = true) :
      ∀ y ∈ [x], y.IsIdle :=
    List.forall_mem_singleton.mpr (.inr (Exchange.isSuccess_eq_false h))
  induction h with
  | exhausted => exact .failed (List.forall_mem_nil _)
  | noToken htoken | noAddress htoken | unsendable htoken => exact .failed htoken.isIdle
  | unanswered htoken _ _ hanswer =>
    exact .append htoken.isIdle (.failed (hidle (by simp [hanswer])))
  | again htoken _ _ hanswer hcalls _ ih =>
    exact .append htoken.isIdle (ih.append (hidle (by simp [hanswer, hcalls.isError])))
  | decided htoken hrequest _ hanswer hdecides =>
    refine .append htoken.isIdle ?_
    cases hdecides with
    | limited hstatus =>
      exact .failed (hidle (by simp [hanswer, HttpResponse.isError, hstatus]))
    | refused hlow hhigh =>
      exact .failed (hidle (by simp [hanswer, HttpResponse.isError, hlow, hhigh]))
    | accepted hfine =>
      refine .succeeded (List.forall_mem_nil _) hrequest rfl hanswer ?_
      simpa [HttpResponse.isError] using hfine

end Client

/-- The uploads are sent one after the other, each until it is accepted.  When the tries of one of
them end in an error, the others are not sent. -/
inductive Delivered (cfg : Client.Config τ) (address : Option Url) :
    Client (Traced τ Exchange) → List Upload → List Exchange → Except RemoteError Unit →
      Client (Traced τ Exchange) → Prop where
  | done (c : Client (Traced τ Exchange)) : Delivered cfg address c [] [] (.ok ()) c
  | gaveUp {c after : Client (Traced τ Exchange)} {u : Upload} {us : List Upload}
      {exchanges : List Exchange} {e : RemoteError}
      (htried : Client.Tried cfg (address.map u.request) cfg.attemptLimit c exchanges (.error e)
        after) : Delivered cfg address c (u :: us) exchanges (.error e) after
  | accepted {c mid after : Client (Traced τ Exchange)} {u : Upload} {us : List Upload}
      {exchanges rest : List Exchange} {response : HttpResponse} {result : Except RemoteError Unit}
      (htried : Client.Tried cfg (address.map u.request) cfg.attemptLimit c exchanges
        (.ok response) mid) (h : Delivered cfg address mid us rest result after) :
      Delivered cfg address c (u :: us) (exchanges ++ rest) result after

namespace Delivered

variable {cfg : Client.Config τ} {address : Option Url} {us : List Upload} {uris : List String}
  {c after : Client (Traced τ Exchange)} {exchanges : List Exchange}
  {result : Except RemoteError Unit}

/-- **The first uploads are accepted**, and all of them if and only if the delivery succeeds. -/
theorem exists_accepted (h : Delivered cfg address c us exchanges result after) :
    ∃ k ≤ us.length, acceptedUploads address exchanges = us.take k ∧
      (result = .ok () ↔ k = us.length) := by
  induction h with
  | done => exact ⟨0, Nat.le_refl _, rfl, by simp⟩
  | gaveUp htried => exact ⟨0, Nat.zero_le _, htried.settled.acceptedUploads_eq, by simp⟩
  | accepted htried _ ih =>
    obtain ⟨k, hk, haccepted, hresult⟩ := ih
    refine ⟨k + 1, Nat.succ_le_succ hk, ?_, ?_⟩
    · rw [acceptedUploads_append, htried.settled.acceptedUploads_eq, haccepted]
      rfl
    · rw [hresult, List.length_cons, Nat.add_right_cancel_iff]

/-- Where no upload was accepted, nothing changed the playlist. -/
theorem isIdle (h : Delivered cfg address c us exchanges result after)
    (hnone : acceptedUploads address exchanges = []) : ∀ x ∈ exchanges, x.IsIdle := by
  cases h with
  | done => exact List.forall_mem_nil _
  | gaveUp htried =>
    cases htried.settled with
    | failed hidle => exact hidle
  | accepted htried =>
    rw [acceptedUploads_append, htried.settled.acceptedUploads_eq] at hnone
    nomatch hnone

/-- A delivery without a failure gives the playlist its tracks. -/
theorem contentAfter_of_ok (h : Delivered cfg address c (uploads uris) exchanges (.ok ()) after)
    (prior : List String) : contentAfter address prior exchanges = uris := by
  obtain ⟨k, -, haccepted, hresult⟩ := h.exists_accepted
  rw [contentAfter, haccepted, hresult.mp rfl, List.take_length, foldl_uploads]

/-- A failed delivery leaves the playlist as it was, or gives it the first tracks. -/
theorem contentAfter_of_error {e : RemoteError}
    (h : Delivered cfg address c (uploads uris) exchanges (.error e) after)
    (prior : List String) :
    ((∀ x ∈ exchanges, x.IsIdle) ∧ acceptedUploads address exchanges = [] ∧
        contentAfter address prior exchanges = prior) ∨
      ∃ k, 1 ≤ k ∧ playlistBatchSize * k < uris.length ∧
        contentAfter address prior exchanges = uris.take (playlistBatchSize * k) := by
  obtain ⟨k, hk, haccepted, hresult⟩ := h.exists_accepted
  cases k with
  | zero =>
    refine .inl ⟨h.isIdle haccepted, haccepted, ?_⟩
    rw [contentAfter, haccepted]
    rfl
  | succ k =>
    have hlt : k + 1 < (uploads uris).length :=
      Nat.lt_of_le_of_ne hk fun heq => nomatch hresult.mpr heq
    refine .inr ⟨k + 1, Nat.succ_pos k, (lt_length_uploads_iff uris k).mp hlt, ?_⟩
    rw [contentAfter, haccepted]
    exact foldl_take_uploads prior uris k

end Delivered

/-! ### The tracks of a playlist -/

namespace Client

/-- Where the tracks of a playlist are. -/
def tracksUrl? (cfg : Config τ) (playlistId : String) : Option Url :=
  url? cfg ("/playlists/" ++ playlistId ++ "/tracks") []

/-- Sends one upload. -/
def upload (cfg : Config τ) (address : Option Url) (u : Upload) : Action τ Unit := do
  let _ ← send cfg (address.map u.request)

/-- The client sends the uploads of the tracks. -/
theorem replaceTracks_eq (cfg : Config τ) (playlistId : String) (trackIds : List String) :
    replaceTracks cfg playlistId trackIds
      = (uploads (trackIds.map trackUri)).forM (upload cfg (tracksUrl? cfg playlistId)) := by
  generalize huris : trackIds.map trackUri = uris
  rw [replaceTracks, huris, headD_batches (by decide), drop_one_batches (by decide), uploads]
  simp only [List.forM_eq_forM, List.forM_cons, List.forM_map, upload, bind_assoc, pure_bind]
  rfl

theorem projects_replaceTracks (cfg : Config τ) (playlistId : String) (trackIds : List String) :
    Projects untraced (replaceTracks cfg.traced playlistId trackIds)
      (replaceTracks cfg playlistId trackIds) := by
  rw [replaceTracks_eq, replaceTracks_eq]
  exact Projects.forM (fun u => (projects_send cfg _).bind fun _ => .pure _) _

/-- **The uploads go over the network in their order.** -/
theorem exists_delivered (cfg : Config τ) (address : Option Url) (us : List Upload)
    (c : Client (Traced τ Exchange)) :
    ∃ exchanges result after, (us.forM (upload cfg.traced address)).run c = (result, after) ∧
      after.trace = c.trace ++ exchanges ∧ Delivered cfg address c us exchanges result after := by
  induction us generalizing c with
  | nil => exact ⟨[], _, c, rfl, (List.append_nil _).symm, .done c⟩
  | cons u us ih =>
    obtain ⟨exchanges, e | response, mid, hrun, htrace, htried⟩ :=
      exists_tried cfg (address.map u.request) cfg.attemptLimit c
    · have hupload : (upload cfg.traced address u).run c = (.error e, mid) :=
        run_bind_of_error hrun
      exact ⟨exchanges, _, mid, run_bind_of_error hupload, htrace, .gaveUp htried⟩
    · have hupload : (upload cfg.traced address u).run c = (.ok (), mid) := run_bind_of_ok hrun
      obtain ⟨rest, result, after, hrest, htrace', hdelivered⟩ := ih mid
      refine ⟨exchanges ++ rest, result, after, (run_bind_of_ok hupload).trans hrest, ?_,
        .accepted htried hdelivered⟩
      rw [htrace', htrace, List.append_assoc]

end Client

namespace Client

/-- **A playlist gets its tracks, or the first of them.**  The tracks go out in uploads of at most a
batch each: the first one, even of no tracks, replaces what the playlist holds, and each of the
others is added at the end.  If all goes well, the playlist holds just the tracks, in order.
Otherwise it still holds what it held before, or the tracks of the uploads that were accepted. -/
theorem replaceTracks_content (cfg : Config τ) (playlistId : String) (trackIds : List String)
    (c : Client (Traced τ Exchange)) (prior : List String) :
    ∃ exchanges result after,
      (replaceTracks cfg.traced playlistId trackIds).run c = (result, after) ∧
      (replaceTracks cfg playlistId trackIds).run c.untraced = (result, after.untraced) ∧
      after.trace = c.trace ++ exchanges ∧
      Delivered cfg (tracksUrl? cfg playlistId) c (uploads (trackIds.map trackUri)) exchanges result
        after ∧
      (∀ u ∈ uploads (trackIds.map trackUri), u.uris.length ≤ 100) ∧
      match result with
      | .ok () =>
        contentAfter (tracksUrl? cfg playlistId) prior exchanges = trackIds.map trackUri
      | .error _ =>
        ((∀ x ∈ exchanges, x.IsIdle) ∧
          acceptedUploads (tracksUrl? cfg playlistId) exchanges = [] ∧
          contentAfter (tracksUrl? cfg playlistId) prior exchanges = prior) ∨
        ∃ k, 1 ≤ k ∧ 100 * k < trackIds.length ∧
          contentAfter (tracksUrl? cfg playlistId) prior exchanges
            = (trackIds.map trackUri).take (100 * k) := by
  obtain ⟨exchanges, result, after, hrun, htrace, hdelivered⟩ := exists_delivered cfg
    (tracksUrl? cfg playlistId) (uploads (trackIds.map trackUri)) c
  have hreplace : (replaceTracks cfg.traced playlistId trackIds).run c = (result, after) := by
    rw [replaceTracks_eq]
    exact hrun
  refine ⟨exchanges, result, after, hreplace,
    (projects_replaceTracks cfg playlistId trackIds).run_eq hreplace, htrace, hdelivered,
    fun u hu => length_uris_le_of_mem_uploads hu, ?_⟩
  cases result with
  | ok => exact hdelivered.contentAfter_of_ok prior
  | error e =>
    rw [← List.length_map (f := trackUri)]
    exact hdelivered.contentAfter_of_error prior

/-! #### A service that breaks down -/

/-- A client of a service on this machine. -/
def nearConfig : Config (Scripted Unit) :=
  { idleConfig.scripted with settings := { Settings.local "" "" with apiUrl := "http://[::1]/" } }

/-- The service answers a request, then it is unavailable, and then it is broken. -/
def brokenClient : Client (Traced (Scripted Unit) Exchange) where
  network := ⟨⟨(), [⟨200, [], []⟩, ⟨502, [], []⟩, ⟨500, [], []⟩], []⟩, []⟩
  token := ⟨"token", "next", "", 3600, 0⟩
  database := {}

/-- The second upload of a hundred and one tracks fails, and the playlist has the first hundred. -/
theorem replaceTracks_brokenClient : ∃ exchanges after,
    (replaceTracks nearConfig.traced "mix" (List.replicate 101 "song")).run brokenClient
      = (.error (.http (.status 500)), after) ∧
    Delivered nearConfig (tracksUrl? nearConfig "mix") brokenClient
      (uploads (List.replicate 101 "spotify:track:song")) exchanges (.error (.http (.status 500)))
      after ∧
    exchanges.map (fun x => x.answer.map HttpResponse.status) = [some 200, some 502, some 500] ∧
    contentAfter (tracksUrl? nearConfig "mix") ["old"] exchanges
      = List.replicate 100 "spotify:track:song" := by
  obtain ⟨exchanges, result, after, hrun, -, htrace, hdelivered, -, hcontent⟩ :=
    replaceTracks_content nearConfig "mix" (List.replicate 101 "song") brokenClient ["old"]
  have hresult : ((replaceTracks nearConfig.traced "mix" (List.replicate 101 "song")).run
      brokenClient).1 = .error (.http (.status 500)) := by decide +kernel
  have hstatus : ((replaceTracks nearConfig.traced "mix" (List.replicate 101 "song")).run
      brokenClient).2.trace.map (fun x => x.answer.map HttpResponse.status)
      = [some 200, some 502, some 500] := by decide +kernel
  have htype : ((replaceTracks nearConfig.traced "mix" (List.replicate 101 "song")).run
      brokenClient).2.trace.map (fun x => (x.isSuccess, x.request.contentType))
      = [(true, some "application/json"), (false, some "application/json"),
        (false, some "application/json")] := by decide +kernel
  rw [hrun] at hresult hstatus htype
  obtain rfl : result = .error (.http (.status 500)) := hresult
  obtain rfl : after.trace = exchanges := htrace
  refine ⟨_, after, hrun, hdelivered, hstatus, ?_⟩
  obtain ⟨hidle, -⟩ | ⟨k, hk, hlt, hfirst⟩ := hcontent
  · -- the first upload was accepted
    obtain ⟨x, rest, htrace, hx, -⟩ := List.map_eq_cons_iff.mp htype
    obtain ⟨hsuccess, hjson⟩ := Prod.mk.inj hx
    rcases hidle x (htrace ▸ List.mem_cons_self) with hform | hfailed
    · exact absurd (hform.symm.trans hjson) (by decide)
    · exact absurd (hsuccess.symm.trans hfailed) (by decide)
  · rw [List.length_replicate] at hlt
    obtain rfl : k = 1 := by omega
    rw [hfirst]
    decide +kernel

end Client

end SmartPlaylist
