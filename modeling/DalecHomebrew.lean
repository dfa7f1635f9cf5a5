import DalecHomebrew.Bottle.Streams
import DalecHomebrew.CatalogClient.Contract
import DalecHomebrew.CatalogExtractor.Normalization
import DalecHomebrew.CatalogGenerator.BuildLocks
import DalecHomebrew.CatalogGenerator.FinishOCI
import DalecHomebrew.CatalogResolver.RootOrder
import DalecHomebrew.CatalogService.PowerLoss
import DalecHomebrew.CatalogService.Quota
import DalecHomebrew.CatalogService.Retention
import DalecHomebrew.CatalogService.SequenceLoss
import DalecHomebrew.CatalogService.Slots
import DalecHomebrew.Fetcher.Dial
import DalecHomebrew.Frontend.RequestedRoots
import DalecHomebrew.Homebrew.JWSPolicy
import DalecHomebrew.Homebrew.Version
import DalecHomebrew.Materializer.BottleFiles
import DalecHomebrew.Resolver.CoreUpgrade
import DalecHomebrew.Runtime.Env
import DalecHomebrew.RuntimeFS.LinkTargets
import DalecHomebrew.RuntimeFS.PruneEvidence
import DalecHomebrew.RuntimeFS.WritableState
