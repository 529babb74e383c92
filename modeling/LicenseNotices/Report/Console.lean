import LicenseNotices.Text.Basic

/-!
The console on which a report is printed. It is part of the surroundings of a run: what a message
looks like on it is not decided here.
-/
namespace LicenseNotices

class Console where
  /-- What is printed for a message. -/
  printed : Text → Text

end LicenseNotices
