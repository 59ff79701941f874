import PageRouter.Config
import PageRouter.Page.Basic

/-!
# Configured pages

A page takes its root, its interception of links and the number of elements that its routes keep
from a configuration.  Whoever makes a page can still decide the last one otherwise.
-/

namespace PageRouter.Page

/-- The page with a configuration's settings. -/
def configured (page : Page) (config : Config) : Page :=
  { page with
    root? := config.root.map normalizeRoot
    interceptsLinks := config.interceptLinks
    defaultCacheCount := config.effectiveCacheCount }

/-- The page with another number of elements for routes that say nothing about it. -/
def withDefaultCacheCount (page : Page) (count : Nat) : Page :=
  { page with defaultCacheCount := clampCacheCount count }

end PageRouter.Page
