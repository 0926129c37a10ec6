import SiteWalk.Settings.Form
import SiteWalk.Toml.Reader

/-!
# Settings as text

The settings that the text of a profile says; none if it cannot be read.
-/

namespace SiteWalk.Settings

def ofText? (text : List Char) : Option Settings := (Toml.read? text).bind (ofDatum? .toml)

end SiteWalk.Settings
