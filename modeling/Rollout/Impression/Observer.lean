import Rollout.Impression.LruCache

namespace Rollout

structure ImpressionObserver where
  cache : LruCache UInt64 Int64

namespace ImpressionObserver

def defaultCacheSize : Nat := 500000

def new (cacheSize : Nat) : Except SettingError ImpressionObserver :=
  (LruCache.new cacheSize).map ImpressionObserver.mk

def testAndSet (o : ImpressionObserver) (i : Impression) : Impression × ImpressionObserver :=
  let (previousTime, cache) := o.cache.testAndSet i.hash i.time
  ({ i with previousTime }, ⟨cache⟩)

def observe (o : ImpressionObserver) :
    List ImpressionWithAttributes → List ImpressionWithAttributes × ImpressionObserver
  | [] => ([], o)
  | (i, attributes) :: rest =>
    let (i, o) := o.testAndSet i
    let (observed, o) := o.observe rest
    ((i, attributes) :: observed, o)

end ImpressionObserver

end Rollout
