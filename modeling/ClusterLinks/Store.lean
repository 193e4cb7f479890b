import ClusterLinks.Action
import ClusterLinks.Cluster

/-!
# Where clusters are kept

A store hands out clusters by key and takes changes to them: a whole change between two states of
a cluster, or the presence of one finalizer.
-/

namespace ClusterLinks

structure ClusterStore (World : Type) where
  /-- The cluster under a key, if there is one. -/
  get (key : ObjectKey) : Action World (Option Cluster)
  /-- Keeps what `after` changes in `before`. -/
  persist (before after : Cluster) : Action World Unit
  /-- Adds a finalizer that the cluster does not have yet. -/
  addFinalizer (key : ObjectKey) (finalizer : String) : Action World Unit
  /-- Removes a finalizer; a cluster that is gone has none. -/
  removeFinalizer (key : ObjectKey) (finalizer : String) : Action World Unit

/-- What a store is asked for. -/
inductive StoreCall where
  | get (key : ObjectKey)
  | persist (before after : Cluster)
  | addFinalizer (key : ObjectKey) (finalizer : String)
  | removeFinalizer (key : ObjectKey) (finalizer : String)
  deriving DecidableEq

namespace ClusterStore

variable {World Outer : Type}

/-- A store on a part of the world. -/
def within (part : Outer → World) (put : World → Outer → Outer) (store : ClusterStore World) :
    ClusterStore Outer where
  get key := (store.get key).within part put
  persist before after := (store.persist before after).within part put
  addFinalizer key finalizer := (store.addFinalizer key finalizer).within part put
  removeFinalizer key finalizer := (store.removeFinalizer key finalizer).within part put

/-- Announces every call before it is made. An announcement that fails takes the place of the
call, so calls can be recorded, made to fail, or preceded by what others do. -/
def announcing (announce : StoreCall → Action World Unit) (store : ClusterStore World) :
    ClusterStore World where
  get key := do
    announce (.get key)
    store.get key
  persist before after := do
    announce (.persist before after)
    store.persist before after
  addFinalizer key finalizer := do
    announce (.addFinalizer key finalizer)
    store.addFinalizer key finalizer
  removeFinalizer key finalizer := do
    announce (.removeFinalizer key finalizer)
    store.removeFinalizer key finalizer

end ClusterStore

end ClusterLinks
