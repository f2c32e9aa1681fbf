import DevlogGraph.Proofs.Url.Written
import DevlogGraph.Service.Client

/-! The addresses that a client of the service asks. They stay at the server of the configured address
and on the level of its path that the last slash ends: what is written behind that slash is not part of
them. So a configured path has to end in a slash to be kept whole. -/
namespace DevlogGraph.Service

open Url

/-- A configured address as it is read: without the blanks around it, and with a scheme. -/
def completed (written : String) : List Char := withScheme (Text.trim written.toList)

def endpointPath (name : String) : List Char := ['/', 'a', 'p', 'i', '/'] ++ name.toList

/-- A path without the slash at its end, if it has one there. -/
def withoutSlash (path : List Char) : List Char :=
  if path.getLast? = some '/' then path.dropLast else path

/-- The address of an endpoint on the level of the base. -/
structure Beside (base url : Url) (name : String) : Prop where
  scheme : url.scheme = base.scheme
  user : url.user = base.user
  host : url.host = base.host
  port : url.port = base.port
  query : url.query = none
  fragment : url.fragment = none
  /-- What the path of the base has behind its last slash makes way for the endpoint. -/
  path : ∃ parents last, Path.text base.path = parents ++ '/' :: last ∧ '/' ∉ last ∧
    Path.text url.path = parents ++ endpointPath name

/-- The path of the endpoint is that of the base, but for a slash at its end, and the endpoint. -/
def Under (base url : Url) (name : String) : Prop :=
  Path.text url.path = withoutSlash (Path.text base.path) ++ endpointPath name

variable {client : Client}

private theorem endpoint_path (path : client.address.path = parents ++ [last])
    (plain : Path.plain name.toList = true) :
    (client.endpoint name).path = parents ++ ["api".toList, name.toList] := by
  have api_plain : Path.plain "api".toList = true := by decide
  have both_plain : ∀ segment ∈ ["api".toList, name.toList], Path.plain segment = true :=
    List.forall_mem_cons.mpr ⟨api_plain, List.forall_mem_singleton.mpr plain⟩
  unfold Client.endpoint Url.join
  rw [path, List.dropLast_concat, Path.follow_plain _ both_plain]

private theorem text_endpoint (parents : List (List Char)) (name : String) :
    Path.text (parents ++ ["api".toList, name.toList]) = Path.text parents ++ endpointPath name := by
  simp [Path.text, endpointPath]

private theorem withoutSlash_ended (front : List Char) : withoutSlash (front ++ ['/']) = front := by
  rw [withoutSlash, if_pos List.getLast?_concat, List.dropLast_concat]

private theorem withoutSlash_other {path : List Char} (other : path.getLast? ≠ some '/') :
    withoutSlash path = path :=
  if_neg other

theorem under_iff (path : client.address.path = parents ++ [last]) (clear : '/' ∉ last)
    (plain : Path.plain name.toList = true) :
    Under client.address (client.endpoint name) name ↔
      (Path.text client.address.path).getLast? = some '/' := by
  rw [Under, endpoint_path path plain, text_endpoint, path, Path.text_ends_iff clear,
    Path.text_concat]
  constructor
  · intro under
    rw [List.append_cancel_right_eq] at under
    cases last with
    | nil => rfl
    | cons c more =>
      have other : (Path.text parents ++ '/' :: c :: more).getLast? ≠ some '/' := by
        rw [← Path.text_concat, ne_eq, Path.text_ends_iff clear]
        exact List.cons_ne_nil c more
      rw [withoutSlash_other other, List.self_eq_append_right] at under
      cases under
  · rintro rfl
    rw [withoutSlash_ended]

private theorem address_path {written : String} {url : Url}
    (found : Service.address written = .ok url) :
    url.path = Path.read (writtenPath (completed written)) := by
  unfold Service.address at found
  dsimp only at found
  split at found
  · cases found
  · split at found
    · rename_i address_read
      cases found
      exact read_path address_read
    · cases found
    · cases found

theorem of_eq_ok_iff {settings : ModelSettings} :
    Client.of settings = .ok client ↔ Service.address settings.url = .ok client.address := by
  constructor
  · intro made
    obtain ⟨url, found, built⟩ := bind_eq_ok_iff.mp made
    cases built
    exact found
  · intro found
    exact bind_eq_ok_iff.mpr ⟨_, found, rfl⟩

/-- A path that was read has a last segment, without a slash. -/
private theorem exists_last (made : Client.of settings = .ok client) :
    ∃ parents last, client.address.path = parents ++ [last] ∧ '/' ∉ last := by
  have path := address_path (of_eq_ok_iff.mp made)
  have some_segment : client.address.path ≠ [] := path ▸ Path.read_ne_nil _
  refine ⟨_, _, (List.dropLast_concat_getLast some_segment).symm, ?_⟩
  have clear := Path.clear_read (writtenPath (completed settings.url))
  rw [← path] at clear
  exact clear _ (List.getLast_mem some_segment)

/-- Only the answer at the one address counts for the models. -/
private theorem models_congr {network other : Network}
    (same : network ⟨client.endpoint "tags", none⟩ = other ⟨client.endpoint "tags", none⟩) :
    client.models network = client.models other := by
  dsimp only [Client.models]
  rw [same]

private theorem generate_congr {network other : Network} {request : Request}
    (same : network ⟨client.endpoint "generate", some request⟩ =
      other ⟨client.endpoint "generate", some request⟩) :
    client.generate network request = client.generate other request := by
  dsimp only [Client.generate]
  rw [same]

private theorem beside (path : client.address.path = parents ++ [last]) (clear : '/' ∉ last)
    (plain : Path.plain name.toList = true) :
    Beside client.address (client.endpoint name) name where
  scheme := rfl
  user := rfl
  host := rfl
  port := rfl
  query := rfl
  fragment := rfl
  path := by
    refine ⟨Path.text parents, last, ?_, clear, ?_⟩
    · rw [path, Path.text_concat]
    · rw [endpoint_path path plain, text_endpoint]

/-- The endpoints that a client asks stand beside what the path of its address has behind its last
slash. They are under the address exactly if its path ends in a slash, as it does if a slash ends the
path that is written or none is written. Nothing else is asked. -/
theorem endpoints_beside_address (made : Client.of settings = .ok client) :
    (∀ name ∈ ["tags", "generate"],
      Beside client.address (client.endpoint name) name ∧
      (Under client.address (client.endpoint name) name ↔
        (Path.text client.address.path).getLast? = some '/') ∧
      (Path.EndsOpen (writtenPath (completed settings.url)) →
        Under client.address (client.endpoint name) name)) ∧
    client.address.path = Path.read (writtenPath (completed settings.url)) ∧
    (∀ network other : Network,
      network ⟨client.endpoint "tags", none⟩ = other ⟨client.endpoint "tags", none⟩ →
      client.models network = client.models other) ∧
    ∀ (network other : Network) (request : Request),
      network ⟨client.endpoint "generate", some request⟩ =
        other ⟨client.endpoint "generate", some request⟩ →
      client.generate network request = client.generate other request := by
  obtain ⟨parents, last, split, clear⟩ := exists_last made
  have path := address_path (of_eq_ok_iff.mp made)
  refine ⟨?_, path, fun _ _ => models_congr, fun _ _ _ => generate_congr⟩
  intro name member
  have plain : Path.plain name.toList = true := by
    revert name
    decide
  refine ⟨beside split clear plain, under_iff split clear plain, fun ends => ?_⟩
  have empty := Path.getLast_read ends
  rw [← path, split, List.getLast?_concat] at empty
  rw [under_iff split clear plain, split, Path.text_ends_iff clear]
  exact Option.some.inj empty

/-- An address without a scheme, with blanks around it and a path that ends in a slash. -/
theorem endpoints_beside_address_kept_prefix : ∃ client,
    Client.of { url := " [::1]:11434/ollama/ " } = .ok client ∧
    Path.text client.address.path = "/ollama/".toList ∧
    Path.text (client.endpoint "tags").path = "/ollama/api/tags".toList := by
  have found : Service.address " [::1]:11434/ollama/ " =
      .ok ⟨.http, [], .address6 [0,0,0,0,0,0,0,1], some 11434, ["ollama".toList, []], none, none⟩ :=
    toOption_eq_some_iff.mp (by decide +kernel)
  have made : Client.of { url := " [::1]:11434/ollama/ " } = .ok ⟨_⟩ := of_eq_ok_iff.mpr found
  obtain ⟨_, under, _⟩ := (endpoints_beside_address made).1 "tags" (by decide)
  exact ⟨_, made, by decide, (under.mpr (by decide)).trans (by decide)⟩

/-- Without a slash at its end the configured path loses its last segment. -/
theorem prefix_lost_without_slash : ∃ client,
    Client.of { url := "http://[::1]:11434/ollama" } = .ok client ∧
    Path.text (client.endpoint "tags").path = "/api/tags".toList ∧
    ¬ Under client.address (client.endpoint "tags") "tags" := by
  have found : Service.address "http://[::1]:11434/ollama" =
      .ok ⟨.http, [], .address6 [0,0,0,0,0,0,0,1], some 11434, ["ollama".toList], none, none⟩ :=
    toOption_eq_some_iff.mp (by decide +kernel)
  have made : Client.of { url := "http://[::1]:11434/ollama" } = .ok ⟨_⟩ :=
    of_eq_ok_iff.mpr found
  exact ⟨_, made, by decide, by unfold Under; decide⟩

end DevlogGraph.Service
