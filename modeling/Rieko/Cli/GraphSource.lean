import Rieko.Detectors.Registry
import Rieko.Graph.Store
import Rieko.IngestLnd.Normalize

namespace Rieko

open Identity

structure GraphSource where
  network : BitcoinNetwork
  fixture : Option String := none
  lndRest : Option String := none
  node : String
deriving DecidableEq, Repr

/-- What a build meets outside: the credentials and the answers of the node, or the contents of the fixture. Of
    the forwards only their times are kept. -/
structure Outside where
  client : Except String Unit := .ok ()
  getInfo : Except String String := .error "unreachable"
  rawChannels : Except String (List LndChannel) := .error "unreachable"
  forwardedAt : List DateTime := []
  observedAt : DateTime
  fixtureBytes : Except String (List UInt8) := .error "no file"
  fixtureChannels : Except String (List LndChannel) := .error "no file"
  modifiedAt : DateTime

namespace GraphSource

def trimEndSlashes (rest : String) : String := .ofList (rest.toList.reverse.dropWhile (· = '/')).reverse

def observationSource (ext : External) (source : GraphSource) (outside : Outside) : Except String ObservationSource :=
  match source.lndRest, source.fixture with
  | some rest, _ => .ok (.lnd (ext.sha256 (utf8 (trimEndSlashes rest))) source.node)
  | none, some path =>
    match outside.fixtureBytes with
    | .error e => .error s!"reading fixture provenance from {path}: {e}"
    | .ok contents => .ok (.fixture (ext.sha256 contents) source.node)
  | none, none => .error "provide --fixture or --lnd-rest"

def normalizer (version : String) : ProducerVersion := ⟨"rieko-ingest-lnd", version, .normalizer⟩

def resolvedLocal (source : GraphSource) (outside : Outside) : NodeId :=
  match outside.getInfo with
  | .ok identityPubkey => identityPubkey
  | .error _ => source.node

def normalizedChannels (localNode : NodeId) (observedAt : DateTime) (raw : List LndChannel) : List Channel :=
  raw.filterMap fun lnd => match Normalizer.channel lnd localNode observedAt with
    | .ok channel => some channel
    | .error _ => none

def buildLive (source : GraphSource) (outside : Outside) : Except String InMemoryGraph := do
  outside.client
  let raw ← outside.rawChannels
  let channels := normalizedChannels (source.resolvedLocal outside) outside.observedAt raw
  return (InMemoryGraph.new.upsertChannels channels).1

/-- A malformed channel of a fixture fails the load. -/
def loadFixture (localNode : NodeId) (outside : Outside) : Except String (List Channel) := do
  let parsed ← outside.fixtureChannels
  parsed.mapM fun lnd => match Normalizer.channel lnd localNode outside.modifiedAt with
    | .ok channel => .ok channel
    | .error e => .error e.toString

def build (source : GraphSource) (outside : Outside) : Except String InMemoryGraph :=
  match source.lndRest, source.fixture with
  | some _, _ => source.buildLive outside
  | none, some _ =>
    if source.network = .mainnet then
      .error ("fixture data cannot represent mainnet production evidence; use --network regtest, testnet, or " ++
        "signet with --fixture")
    else do
      let channels ← loadFixture source.node outside
      return (InMemoryGraph.new.upsertChannels channels).1
  | none, none => .error "provide --fixture or --lnd-rest"

end GraphSource

namespace InMemoryGraph

theorem mem_upsertChannel {graph : InMemoryGraph} {upserted channel : Channel}
    (member : channel ∈ (graph.upsertChannel upserted).storedChannels) :
    channel = upserted ∨ channel ∈ graph.storedChannels := by
  obtain ⟨⟨id, held⟩, listed, rfl⟩ := List.mem_map.mp member
  unfold upsertChannel at listed
  dsimp only at listed
  rw [AList.entries_insert, List.mem_cons] at listed
  rcases listed with new | old
  · cases new
    exact .inl rfl
  · exact .inr (List.mem_map.mpr ⟨⟨id, held⟩, (List.kerase_sublist _ _).subset old, rfl⟩)

theorem mem_upsertChannels {graph : InMemoryGraph} {channels : List Channel} {channel : Channel}
    (member : channel ∈ (channels.foldl upsertChannel graph).storedChannels) :
    channel ∈ channels ∨ channel ∈ graph.storedChannels := by
  induction channels generalizing graph with
  | nil => exact .inr member
  | cons first rest ih =>
    rcases ih member with later | earlier
    · exact .inl (List.mem_cons_of_mem _ later)
    · rcases mem_upsertChannel earlier with rfl | stored
      · exact .inl List.mem_cons_self
      · exact .inr stored

end InMemoryGraph

end Rieko
