import CivicSite.Script.Code

/-!
# The script of websites with a map

The map library is loaded by the page itself, so the map waits for it, but not forever.
-/

namespace CivicSite.Script

def mapInstance : List Code := [
  "// Leaflet may still be loading; retry a bounded number of times",
  "let mapInstance = null;"]

/-- Puts the map in its place, once its library is there. -/
def initMap : List Code := [
  .block "function initMap(attempt) " [
    "const container = document.getElementById('map');",
    "",
    .block "if (!container || mapInstance || container.dataset.initialized === 'true') " [
      "return;"] "",
    "",
    .block "if (typeof L === 'undefined') " [
      .twoBlocks "if (attempt < MAP_RETRY_LIMIT) " [
        .block "setTimeout(function() " [
          "initMap(attempt + 1);"] ", MAP_RETRY_DELAY);"] " else " [
        "console.error('Leaflet did not load, map disabled');",
        "container.innerHTML = '<p class=\"map-error\">Harta nu a putut fi încărcată.</p>';"] "",
      "return;"] "",
    "",
    "container.dataset.initialized = 'true';",
    "mapInstance = L.map(container).setView([LOCATION.lat, LOCATION.lng], 13);",
    "",
    .block ("L.tileLayer('https://\x7bs\x7d.tile.openstreetmap.org/"
      ++ "\x7bz\x7d/\x7bx\x7d/\x7by\x7d.png', ") [
      "attribution: '&copy; OpenStreetMap contributors',",
      "maxZoom: 19"] ").addTo(mapInstance);",
    "",
    "L.marker([LOCATION.lat, LOCATION.lng])",
    .deeper [
      ".addTo(mapInstance)",
      .line (".bindPopup('<b>' + escapeHtml(SETTLEMENT_NAME) + '</b><br>' "
        ++ "+ escapeHtml(SETTLEMENT_REGION))"),
      ".openPopup();"]] ""]

def mapFunctions : List (List Code) :=
  [mapInstance, initMap]

end CivicSite.Script
