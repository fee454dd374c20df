import CivicSite.Script.Code

/-!
# The script of every page

The functions that every page of a website has: escaping, smooth scrolling, and sections that
fade in.
-/

namespace CivicSite.Script

/-- Makes a text safe inside markup. -/
def escapeHtml : List Code := [
  .block "function escapeHtml(value) " [
    "return String(value == null ? '' : value)",
    .deeper [
      ".replace(/&/g, '&amp;')",
      ".replace(/</g, '&lt;')",
      ".replace(/>/g, '&gt;')",
      ".replace(/\"/g, '&quot;')",
      ".replace(/'/g, '&#39;');"]] ""]

/-- Links of the navigation scroll smoothly. -/
def smoothScroll : List Code := [
  "// Smooth scroll for navigation links",
  .block "function initSmoothScroll() " [
    "const navLinks = document.querySelectorAll('nav a[href^=\"#\"]');",
    "",
    .block "navLinks.forEach(function(link) " [
      .block "link.addEventListener('click', function(e) " [
        "const targetId = this.getAttribute('href').substring(1);",
        "const targetElement = document.getElementById(targetId);",
        "",
        .block "if (targetElement) " [
          "e.preventDefault();",
          .block "targetElement.scrollIntoView(" [
            "behavior: 'smooth',",
            "block: 'start'"] ");"] ""] ");"] ");"] ""]

/-- Sections fade in as they come into view. -/
def scrollAnimations : List Code := [
  "// Fade sections in as they scroll into view",
  .block "function initScrollAnimations() " [
    "const sections = document.querySelectorAll('section');",
    "",
    .block "if (!('IntersectionObserver' in window)) " [
      "return;"] "",
    "",
    .twoBlocks "const observer = new IntersectionObserver(function(entries) " [
      .block "entries.forEach(function(entry) " [
        .block "if (entry.isIntersecting) " [
          "entry.target.style.opacity = '1';",
          "entry.target.style.transform = 'translateY(0)';",
          "observer.unobserve(entry.target);"] ""] ");"] ", " [
      "threshold: 0.1,",
      "rootMargin: '0px 0px -50px 0px'"] ");",
    "",
    .block "sections.forEach(function(section) " [
      "section.style.opacity = '0';",
      "section.style.transform = 'translateY(20px)';",
      "section.style.transition = 'opacity 0.6s ease, transform 0.6s ease';",
      "observer.observe(section);"] ");"] ""]

def pageFunctions : List (List Code) :=
  [escapeHtml, smoothScroll, scrollAnimations]

end CivicSite.Script
