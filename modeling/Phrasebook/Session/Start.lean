import Phrasebook.Session.Run
import Phrasebook.Settings.Basic

/-!
# Starting a session

A session starts from files, settings, loaders and bundles. What a loader is not told it
takes from the settings; loaders that name the same cache share it. The first loader is the
one that the localizer uses.
-/

namespace Phrasebook.Session

open Phrasebook.Locale (Contexts)
open Resources (CacheId Loader Mapping Store)

/-- What a loader is told. -/
structure LoaderPlan where
  baseLang : Option Text
  dirname : Option Text
  cache : Option Text

/-- The loader that is told nothing. -/
def LoaderPlan.plain : LoaderPlan := ⟨none, none, none⟩

/-- A bundle with the items that stand in for its files, if any. -/
structure BundlePlan where
  source : Text
  items : Option (List (Text × Option Text))

/-- What a session starts from. -/
structure Plan where
  files : FileStore
  settings : Settings
  loaders : List (Text × LoaderPlan)
  defaultLocale : Option Text
  bundles : List (Text × BundlePlan)

/-- A text that was given and is not empty, or a default. -/
def orElse (text : Option Text) (default : Text) : Text :=
  match text with
  | none => default
  | some s => if s.isEmpty then default else s

/-- A name that was given and is not empty. -/
def nonempty? (name : Option Text) : Option Text :=
  name.filter (!·.isEmpty)

/-- The cache of the loader at a position: the position of the first loader that names the
same cache, or its own where it names none. -/
def cacheOf (plans : List LoaderPlan) (position : Nat) (plan : LoaderPlan) : CacheId :=
  match nonempty? plan.cache with
  | none => position
  | some name => plans.findIdx fun other => nonempty? other.cache == some name

/-- The loader that a plan describes. -/
def LoaderPlan.loader (settings : Settings) (cache : CacheId) (plan : LoaderPlan) : Loader where
  layout := {
    baseLang := orElse plan.baseLang settings.baseLang
    dirname := orElse plan.dirname settings.resourcesDirname }
  cache

/-- The loaders of a plan by their names. -/
def Plan.namedLoaders (plan : Plan) : List (Text × Loader) :=
  let plans := plan.loaders.map Prod.snd
  plan.loaders.zipIdx.map fun ((name, loader), position) =>
    (name, loader.loader plan.settings (cacheOf plans position loader))

/-- Add the bundles of a plan one after the other. -/
def addBundles (s : Session) : List (Text × BundlePlan) → Session
  | [] => s
  | (name, plan) :: rest =>
    let s :=
      match plan.items with
      | none => { s with bundles := s.bundles.put name ⟨plan.source, none⟩ }
      | some items =>
        { s with
          bundles := s.bundles.put name ⟨plan.source, some s.store.nextId⟩
          store := s.store.add ⟨Dict.ofPairs items, false⟩ }
    addBundles s rest

/-- The session that a plan describes. -/
def start (plan : Plan) : Session :=
  let loaders := plan.namedLoaders
  let first := (loaders.head?.map Prod.snd).getD (LoaderPlan.plain.loader plan.settings 0)
  addBundles {
    files := plan.files
    store := .empty
    contexts := .empty
    localizer := {
      loader := first
      defaultLocale := .text (orElse plan.defaultLocale plan.settings.defaultLocale)
      rtlLangs := plan.settings.rtlLangs }
    hook := none
    hookCalls := []
    loaders := Dict.ofPairs loaders
    bundles := []
    tokens := []
    accessors := []
    vars := []
    seen := [] } plan.bundles

end Phrasebook.Session
